/-
# YHarness.Orchestration.RunnerTokens -- which workers a run cancels

`Orchestrator::run` keeps its claims by worker, and the cancellation tokens by Task.  Here a
run is followed alone: the coordinator, the clock, the generated leases and the workers answer
its calls in any way, and `TokenLog` notes which claims a fencing look found stale and which
tokens were cancelled.

While no claim is spawned for a Task that still has a worker (`Separate`), the two maps agree
(`Tracks`), so a fencing look cancels exactly the workers it finds stale and a run that ends
through `cancel_workers` cancels all (`tokens_follow_claims`).  A Task that is claimed again
while its first worker is drained takes the token's place over: `fresh_worker_cancelled`.
-/
import YHarness.Orchestration.Runner
import YHarness.Orchestration.Integrity

namespace YHarness.Orchestration

open YHarness.Lib YHarness.Kernel
open Orchestrator

set_option autoImplicit false

/-- A worker: its claim, whether a fencing look found the claim stale, whether its token was
cancelled, and whether the run has joined it. -/
structure TokenWorker where
  claim : TaskClaim
  stale : Bool
  cancelled : Bool
  joined : Bool

/-- What a run has done: its workers, whether what it saw last ends it, and whether it has
drained them. -/
structure TokenLog where
  workers : List TokenWorker
  ending : Bool
  drained : Bool

namespace TokenLog

def empty : TokenLog := ⟨[], false, false⟩

/-- A worker that was not joined. -/
def Live (log : TokenLog) (id : Nat) (worker : TokenWorker) : Prop :=
  log.workers[id]? = some worker ∧ worker.joined = false

/-- A fencing look finds the claims that are not current. -/
def fence (log : TokenLog) (graph : TaskGraph) (nowMs : UInt64) : TokenLog :=
  { log with workers := log.workers.map fun worker =>
      { worker with stale := worker.stale || !claimIsCurrent graph worker.claim nowMs } }

def cancel (log : TokenLog) (id : Nat) : TokenLog :=
  { log with workers := log.workers.modify id fun worker => { worker with cancelled := true } }

def spawned (log : TokenLog) (claim : TaskClaim) : TokenLog :=
  { log with workers := log.workers ++ [⟨claim, false, false, false⟩] }

def joined (log : TokenLog) (id : Nat) : TokenLog :=
  { log with workers := log.workers.modify id fun worker => { worker with joined := true } }

/-- A loaded graph ends the run when it is terminal. -/
def endsWith : Except HarnessError (Option TaskGraphSnapshot) → Bool
  | .ok (some snapshot) => snapshot.graph.isTerminal
  | _ => false

/-- What a call may be answered with, and what the log is then.  A spawned worker gets a new
number, and a worker is joined once. -/
def Executes (log : TokenLog) : (c : RunnerCall) → RunnerReply c → TokenLog → Prop
  | .isCancelled, cancelled, log' => log' = { log with ending := cancelled }
  | .loadAs _ _, reply, log' => log' = { log with ending := endsWith reply }
  | .nowMs (.fencing snapshot), nowMs, log' => log' = log.fence snapshot.graph nowMs
  | .spawn execution, id, log' => id = log.workers.length ∧ log' = log.spawned execution.claim
  | .cancelWorker id, _, log' => log' = log.cancel id
  | .workersIsEmpty, isEmpty, log' =>
    (isEmpty = true ↔ ∀ id worker, ¬ log.Live id worker) ∧ log' = log
  | .selectWorker, .cancelled, log' => log' = { log with ending := true }
  | .selectWorker, .joined none, log' => (∀ id worker, ¬ log.Live id worker) ∧ log' = log
  | .selectWorker, .joined (some (id, _)), log' =>
    (∃ worker, log.Live id worker) ∧ log' = log.joined id
  | .drainWorkers, _, log' => log' = { log with drained := true }
  | _, _, log' => log' = log

/-- A claim is spawned for a Task that has no other worker. -/
def Separate (log : TokenLog) : RunnerCall → Prop
  | .spawn execution => ∀ id worker, log.Live id worker →
      worker.claim.task.id ≠ execution.claim.task.id
  | _ => True

/-- Every worker that was found stale is cancelled. -/
def Fenced (log : TokenLog) : Prop :=
  ∀ id worker, log.Live id worker → worker.stale = true → worker.cancelled = true

def AllCancelled (log : TokenLog) : Prop :=
  ∀ id worker, log.Live id worker → worker.cancelled = true

/-- What holds before a call: a token is cancelled for a worker found stale or at the end, the
workers are drained once all are cancelled, and in between the stale ones are. -/
def Kept (log : TokenLog) : RunnerCall → Prop
  | .cancelWorker id => ∀ worker, log.Live id worker → worker.stale = true ∨ log.ending = true
  | .drainWorkers => log.AllCancelled
  | _ => log.Fenced

/-- What holds of a run that is over: one that returns a snapshot has cancelled every worker,
and one that fails has done so exactly when it drained them or had found all of them stale. -/
def Over (log : TokenLog) : Except HarnessError (Option TaskGraphSnapshot) → Prop
  | .ok none => log.Fenced
  | .ok (some _) => log.AllCancelled
  | .error _ => log.AllCancelled ↔
      (log.drained = true ∨ ∀ id worker, log.Live id worker → worker.stale = true)

/-- What holds before the next call of a run, or of the run when it is over. -/
def Holds (log : TokenLog) :
    Task RunnerCall RunnerReply (Except HarnessError (Option TaskGraphSnapshot)) → Prop
  | .call c _ => log.Kept c
  | .done outcome => log.Over outcome

end TokenLog

/-- A run alone: nothing but its own calls changes its log. -/
def tokenSetting : Setting RunnerCall RunnerReply TokenLog where
  exec := TokenLog.Executes
  rely log log' := log' = log

/-! ## The log -/

namespace TokenLog

variable {log : TokenLog} {id other : Nat} {worker : TokenWorker}

theorem Live.unique {left right : TokenWorker} (here : log.Live id left)
    (there : log.Live id right) : left = right :=
  Option.some.inj (here.1.symm.trans there.1)

theorem live_fence {graph : TaskGraph} {nowMs : UInt64} :
    (log.fence graph nowMs).Live id worker ↔ ∃ before, log.Live id before ∧
      worker = { before with
        stale := before.stale || !claimIsCurrent graph before.claim nowMs } := by
  unfold Live fence
  dsimp only
  rw [List.getElem?_map, Option.map_eq_some_iff]
  constructor
  · rintro ⟨⟨before, found, rfl⟩, alive⟩
    exact ⟨before, ⟨found, alive⟩, rfl⟩
  · rintro ⟨before, ⟨found, alive⟩, rfl⟩
    exact ⟨⟨before, found, rfl⟩, alive⟩

theorem live_cancel :
    (log.cancel id).Live other worker ↔ ∃ before, log.Live other before ∧
      worker = { before with cancelled := before.cancelled || decide (other = id) } := by
  unfold Live cancel
  dsimp only
  rw [List.getElem?_modify, Option.map_eq_map, Option.map_eq_some_iff]
  by_cases same : id = other
  · simp only [same, if_true]
    constructor
    · rintro ⟨⟨before, found, rfl⟩, alive⟩
      exact ⟨before, ⟨found, alive⟩, by simp⟩
    · rintro ⟨before, ⟨found, alive⟩, rfl⟩
      exact ⟨⟨before, found, by simp⟩, alive⟩
  · have apart : ¬ other = id := fun equal => same equal.symm
    simp only [same, if_false, apart, decide_false, Bool.or_false]
    constructor
    · rintro ⟨⟨before, found, rfl⟩, alive⟩
      exact ⟨before, ⟨found, alive⟩, rfl⟩
    · rintro ⟨before, ⟨found, alive⟩, rfl⟩
      exact ⟨⟨before, found, rfl⟩, alive⟩

theorem live_joined : (log.joined id).Live other worker ↔ log.Live other worker ∧ other ≠ id := by
  unfold Live joined
  dsimp only
  rw [List.getElem?_modify, Option.map_eq_map, Option.map_eq_some_iff]
  by_cases same : id = other
  · simp only [same, if_true]
    constructor
    · rintro ⟨⟨before, _, rfl⟩, alive⟩
      cases alive
    · rintro ⟨_, apart⟩
      exact absurd rfl apart
  · simp only [same, if_false]
    constructor
    · rintro ⟨⟨before, found, rfl⟩, alive⟩
      exact ⟨⟨found, alive⟩, Ne.symm same⟩
    · rintro ⟨⟨found, alive⟩, _⟩
      exact ⟨⟨worker, found, rfl⟩, alive⟩

theorem live_spawned {claim : TaskClaim} :
    (log.spawned claim).Live id worker ↔
      log.Live id worker ∨ id = log.workers.length ∧ worker = ⟨claim, false, false, false⟩ := by
  unfold Live spawned
  dsimp only
  rw [List.getElem?_append]
  by_cases within : id < log.workers.length
  · rw [if_pos within]
    refine ⟨.inl, ?_⟩
    rintro (here | ⟨rfl, _⟩)
    · exact here
    · exact absurd within (Nat.lt_irrefl _)
  · rw [if_neg within, List.getElem?_eq_none (Nat.le_of_not_lt within), List.getElem?_singleton]
    by_cases last : id - log.workers.length = 0
    · rw [if_pos last, Option.some.injEq]
      have here : id = log.workers.length := by omega
      constructor
      · rintro ⟨rfl, _⟩
        exact .inr ⟨here, rfl⟩
      · rintro (⟨nothing, _⟩ | ⟨_, rfl⟩)
        · cases nothing
        · exact ⟨rfl, rfl⟩
    · rw [if_neg last]
      refine ⟨nofun, ?_⟩
      rintro (here | ⟨rfl, _⟩)
      · exact here
      · exact absurd (Nat.sub_self _) last

/-- The tokens of several workers are cancelled. -/
theorem live_cancels {ids : List Nat} :
    (ids.foldl cancel log).Live id worker ↔ ∃ before, log.Live id before ∧
      worker = { before with cancelled := before.cancelled || decide (id ∈ ids) } := by
  induction ids generalizing log with
  | nil => simp
  | cons first ids ih =>
    rw [List.foldl_cons, ih]
    simp only [live_cancel, List.mem_cons, Bool.decide_or, ← Bool.or_assoc]
    constructor
    · rintro ⟨_, ⟨before, here, rfl⟩, rfl⟩
      exact ⟨before, here, rfl⟩
    · rintro ⟨before, here, rfl⟩
      exact ⟨_, ⟨before, here, rfl⟩, rfl⟩

theorem cancels_flags (log : TokenLog) (ids : List Nat) :
    (ids.foldl cancel log).ending = log.ending ∧ (ids.foldl cancel log).drained = log.drained := by
  induction ids generalizing log with
  | nil => exact ⟨rfl, rfl⟩
  | cons first ids ih => exact ih (log.cancel first)

/-- Outside of a fencing look the cancelled workers are the stale ones. -/
def Marked (log : TokenLog) : Prop :=
  ∀ id worker, log.Live id worker → worker.cancelled = worker.stale

theorem Marked.fenced (marked : log.Marked) : log.Fenced :=
  fun id worker here stale => (marked id worker here).trans stale

end TokenLog

/-! ## The maps of a run -/

/-- The claims of a run are those of its live workers, and it holds the token of each. -/
structure Tracks (state : RunState) (log : TokenLog) : Prop where
  claims : ∀ (id : Nat) (claim : TaskClaim), state.claims[id]? = some claim ↔
    ∃ worker, log.Live id worker ∧ worker.claim = claim
  tokens : ∀ (id : Nat) (worker : TokenWorker), log.Live id worker →
    state.workerCancellations[worker.claim.task.id]? = some id
  owners : ∀ (taskId : TaskId) (id : Nat), state.workerCancellations[taskId]? = some id →
    ∃ worker, log.Live id worker ∧ worker.claim.task.id = taskId

namespace Tracks

variable {state : RunState} {log log' : TokenLog}

theorem empty : Tracks .empty .empty where
  claims id claim := by
    refine ⟨fun found => ?_, ?_⟩
    · rw [show RunState.empty.claims[id]? = none from OrdMap.get?_empty id] at found
      cases found
    · rintro ⟨_, ⟨nothing, _⟩, _⟩
      cases nothing
  tokens id worker here := by cases here.1
  owners taskId id found := by
    rw [show RunState.empty.workerCancellations[taskId]? = none from OrdMap.get?_empty taskId]
      at found
    cases found

/-- Only the live workers and their claims matter. -/
theorem congr (tracks : Tracks state log)
    (same : ∀ id claim, (∃ worker, log'.Live id worker ∧ worker.claim = claim) ↔
      ∃ worker, log.Live id worker ∧ worker.claim = claim) : Tracks state log' where
  claims id claim := (tracks.claims id claim).trans (same id claim).symm
  tokens id worker here := by
    obtain ⟨before, there, claim⟩ := (same id worker.claim).1 ⟨worker, here, rfl⟩
    rw [← claim]
    exact tracks.tokens id before there
  owners taskId id found := by
    obtain ⟨before, there, task⟩ := tracks.owners taskId id found
    obtain ⟨worker, here, claim⟩ := (same id before.claim).2 ⟨before, there, rfl⟩
    exact ⟨worker, here, by rw [claim, task]⟩

/-- A claim of a Task without a worker is spawned. -/
theorem spawned (tracks : Tracks state log) {claim : TaskClaim}
    (separate : ∀ id worker, log.Live id worker → worker.claim.task.id ≠ claim.task.id) :
    Tracks (state.spawned log.workers.length claim) (log.spawned claim) where
  claims id claim' := by
    show (state.claims.insert _ _)[id]? = _ ↔ _
    by_cases last : log.workers.length = id
    · subst last
      rw [OrdMap.get?_insert_self]
      constructor
      · rintro ⟨⟩
        exact ⟨_, TokenLog.live_spawned.2 (.inr ⟨rfl, rfl⟩), rfl⟩
      · rintro ⟨worker, here, rfl⟩
        rcases TokenLog.live_spawned.1 here with ⟨found, _⟩ | ⟨_, rfl⟩
        · rw [List.getElem?_eq_none (Nat.le_refl _)] at found
          cases found
        · rfl
    · rw [OrdMap.get?_insert_of_ne _ _ last, tracks.claims]
      constructor
      · rintro ⟨worker, here, rfl⟩
        exact ⟨worker, TokenLog.live_spawned.2 (.inl here), rfl⟩
      · rintro ⟨worker, here, rfl⟩
        rcases TokenLog.live_spawned.1 here with here | ⟨same, _⟩
        · exact ⟨worker, here, rfl⟩
        · exact absurd same.symm last
  tokens id worker here := by
    show (state.workerCancellations.insert _ _)[worker.claim.task.id]? = _
    rcases TokenLog.live_spawned.1 here with here | ⟨rfl, rfl⟩
    · rw [OrdMap.get?_insert_of_ne _ _ (separate id worker here).symm]
      exact tracks.tokens id worker here
    · exact OrdMap.get?_insert_self ..
  owners taskId id found := by
    change (state.workerCancellations.insert _ _)[taskId]? = _ at found
    by_cases same : claim.task.id = taskId
    · subst same
      rw [OrdMap.get?_insert_self] at found
      cases found
      exact ⟨_, TokenLog.live_spawned.2 (.inr ⟨rfl, rfl⟩), rfl⟩
    · rw [OrdMap.get?_insert_of_ne _ _ same] at found
      obtain ⟨worker, here, task⟩ := tracks.owners taskId id found
      exact ⟨worker, TokenLog.live_spawned.2 (.inl here), task⟩

/-- A worker is joined: no other one loses its token. -/
theorem joined (tracks : Tracks state log) {id : Nat} {worker : TokenWorker}
    (here : log.Live id worker) : Tracks (state.removed id worker.claim) (log.joined id) where
  claims other claim := by
    show (state.claims.erase id)[other]? = _ ↔ _
    by_cases same : id = other
    · subst same
      rw [Std.ExtTreeMap.getElem?_erase_self]
      refine ⟨nofun, ?_⟩
      rintro ⟨_, gone, _⟩
      exact absurd rfl (TokenLog.live_joined.1 gone).2
    · rw [Std.ExtTreeMap.getElem?_erase, if_neg fun equal => same (Std.LawfulEqCmp.eq_of_compare equal),
        tracks.claims]
      constructor
      · rintro ⟨worker', there, rfl⟩
        exact ⟨worker', TokenLog.live_joined.2 ⟨there, Ne.symm same⟩, rfl⟩
      · rintro ⟨worker', there, rfl⟩
        exact ⟨worker', (TokenLog.live_joined.1 there).1, rfl⟩
  tokens other worker' there := by
    obtain ⟨there, apart⟩ := TokenLog.live_joined.1 there
    have token := tracks.tokens other worker' there
    have tasks : worker.claim.task.id ≠ worker'.claim.task.id := by
      intro same
      rw [← same, tracks.tokens id worker here] at token
      exact apart (Option.some.inj token).symm
    show (state.workerCancellations.erase _)[worker'.claim.task.id]? = _
    rw [Std.ExtTreeMap.getElem?_erase, if_neg fun equal => tasks (Std.LawfulEqCmp.eq_of_compare equal)]
    exact token
  owners taskId other found := by
    change (state.workerCancellations.erase _)[taskId]? = _ at found
    rw [Std.ExtTreeMap.getElem?_erase] at found
    split at found
    · cases found
    · rename_i tasks
      obtain ⟨worker', there, rfl⟩ := tracks.owners taskId other found
      refine ⟨worker', TokenLog.live_joined.2 ⟨there, ?_⟩, rfl⟩
      rintro rfl
      rw [here.unique there] at tasks
      exact tasks Std.ReflCmp.compare_self

/-- The workers that a fencing look cancels are those it finds stale. -/
theorem mem_fenced (tracks : Tracks state log) (graph : TaskGraph) (nowMs : UInt64) (id : Nat) :
    id ∈ state.fenced graph nowMs ↔
      ∃ worker, log.Live id worker ∧ claimIsCurrent graph worker.claim nowMs = false := by
  unfold RunState.fenced
  rw [List.mem_filterMap]
  constructor
  · rintro ⟨claim, member, token⟩
    obtain ⟨holder, held⟩ := OrdMap.mem_values.1 member
    obtain ⟨worker, here, rfl⟩ := (tracks.claims holder claim).1 held
    split at token
    · cases token
    · rename_i stale
      rw [tracks.tokens holder worker here] at token
      cases token
      exact ⟨worker, here, Bool.eq_false_iff.2 stale⟩
  · rintro ⟨worker, here, stale⟩
    refine ⟨worker.claim, OrdMap.mem_values.2 ⟨id, (tracks.claims id _).2 ⟨worker, here, rfl⟩⟩, ?_⟩
    rw [stale, if_neg (by decide)]
    exact tracks.tokens id worker here

end Tracks

/-! ## Calls that leave the workers -/

/-- The runs that spawn no claim for a Task that has a worker. -/
abbrev separateRuns : Setting RunnerCall RunnerReply TokenLog :=
  tokenSetting.where TokenLog.Separate

section Calls

variable {α : Type} {log log' log'' : TokenLog}

theorem ensures_ask {c : RunnerCall} {f : RunnerReply c → RunnerM α}
    {post : Except HarnessError α → TokenLog → Prop} (kept : log.Kept c)
    (next : ∀ reply log', log.Separate c → log.Executes c reply log' →
      Ensures separateRuns TokenLog.Kept post (f reply).run log') :
    Ensures separateRuns TokenLog.Kept post (RunnerM.ask c >>= f).run log := by
  refine Ensures.callBind ?_
  rintro v rfl
  exact ⟨kept, fun reply u executes => next reply u executes.1 executes.2⟩

/-- The workers are as they were, and were not drained. -/
structure Quiet (log log' : TokenLog) : Prop where
  workers : log'.workers = log.workers
  drained : log'.drained = log.drained

namespace Quiet

theorem refl (log : TokenLog) : Quiet log log := ⟨rfl, rfl⟩

theorem trans (first : Quiet log log') (second : Quiet log' log'') : Quiet log log'' :=
  ⟨second.workers.trans first.workers, second.drained.trans first.drained⟩

theorem live (quiet : Quiet log log') {id : Nat} {worker : TokenWorker} :
    log'.Live id worker ↔ log.Live id worker := by
  unfold TokenLog.Live
  rw [quiet.workers]

theorem fenced (quiet : Quiet log log') (fenced : log.Fenced) : log'.Fenced :=
  fun id worker here => fenced id worker (quiet.live.1 here)

theorem marked (quiet : Quiet log log') (marked : log.Marked) : log'.Marked :=
  fun id worker here => marked id worker (quiet.live.1 here)

theorem tracks {state : RunState} (quiet : Quiet log log') (tracks : Tracks state log) :
    Tracks state log' :=
  tracks.congr fun _ _ => exists_congr fun _ => and_congr_left fun _ => quiet.live

end Quiet

theorem ensures_loadGraph (o : Orchestrator) (graphId : TaskGraphId) (fenced : log.Fenced) :
    Ensures separateRuns TokenLog.Kept (fun outcome log' => Quiet log log' ∧
      ∀ snapshot, outcome = .ok snapshot → log'.ending = snapshot.graph.isTerminal)
      (o.loadGraph graphId).run log := by
  refine ensures_ask fenced ?_
  rintro reply _ _ rfl
  refine Ensures.checkBind (fun e _ => ⟨⟨rfl, rfl⟩, nofun⟩) ?_
  rintro loaded rfl
  refine Ensures.check ⟨⟨rfl, rfl⟩, fun snapshot found => ?_⟩
  rw [orError_eq_ok] at found
  rw [found]
  rfl

/-- Claiming leaves the workers. -/
theorem ensures_claimAvailable (o : Orchestrator) (graphId : TaskGraphId) (maximum : Nat)
    (fenced : log.Fenced) :
    Ensures separateRuns TokenLog.Kept (fun _ log' => Quiet log log')
      (o.claimAvailable graphId maximum).run log := by
  refine Ensures.checkBind (fun e _ => .refl log) fun leaseDurationMs _ => ?_
  refine Ensures.retry (fun before quiet => ?_) (fun e _ quiet => quiet) _ _ (Quiet.refl log)
  have fenced := quiet.fenced fenced
  refine ensures_ask fenced ?_
  rintro cancelled _ _ rfl
  have quiet : Quiet log { before with ending := cancelled } := quiet.trans ⟨rfl, rfl⟩
  refine Ensures.checkBind (fun e _ => quiet) fun _ _ => ?_
  refine Ensures.tryBind (ensures_loadGraph o graphId (fenced : TokenLog.Fenced { before with .. }))
    (fun e _ loaded => quiet.trans loaded.1) fun snapshot loaded found => ?_
  have quiet := quiet.trans found.1
  have fenced := found.1.fenced fenced
  split
  · exact Ensures.check quiet
  · refine ensures_ask fenced ?_
    rintro nowMs _ _ rfl
    refine ensures_ask fenced ?_
    rintro generate _ _ rfl
    refine Ensures.checkBind (fun e _ => quiet) fun claimed _ => ?_
    split
    · exact Ensures.check quiet
    · refine ensures_ask fenced ?_
      rintro reply _ _ rfl
      refine Ensures.check ?_
      unfold orContention
      split <;> exact quiet

/-- Settling leaves the workers. -/
theorem ensures_settle (o : Orchestrator) (graphId : TaskGraphId) (claim : TaskClaim)
    (outcome : ExecutorOutcome) (fenced : log.Fenced) :
    Ensures separateRuns TokenLog.Kept (fun _ log' => Quiet log log')
      (o.settle graphId claim outcome).run log := by
  refine Ensures.retry (fun before quiet => ?_) (fun e _ quiet => quiet) _ _ (Quiet.refl log)
  have fenced := quiet.fenced fenced
  refine ensures_ask fenced ?_
  rintro cancelled _ _ rfl
  have quiet : Quiet log { before with ending := cancelled } := quiet.trans ⟨rfl, rfl⟩
  refine Ensures.checkBind (fun e _ => quiet) fun _ _ => ?_
  refine Ensures.tryBind (ensures_loadGraph o graphId (fenced : TokenLog.Fenced { before with .. }))
    (fun e _ loaded => quiet.trans loaded.1) fun snapshot loaded found => ?_
  have quiet := quiet.trans found.1
  have fenced := found.1.fenced fenced
  refine ensures_ask fenced ?_
  rintro nowMs _ _ rfl
  split
  · exact Ensures.check quiet
  · split
    · exact Ensures.check quiet
    · refine Ensures.checkBind (fun e _ => quiet) fun graph _ => ?_
      refine ensures_ask fenced ?_
      rintro reply _ _ rfl
      refine Ensures.check ?_
      unfold orContention
      split <;> exact quiet

end Calls

/-! ## One round -/

/-- Between two steps of a run. -/
structure Between (state : RunState) (log : TokenLog) : Prop where
  tracks : Tracks state log
  marked : log.Marked
  drained : log.drained = false

/-- Every worker is cancelled and drained. -/
structure Ended (log : TokenLog) : Prop where
  cancelled : log.AllCancelled
  drained : log.drained = true

section Round

variable {state : RunState} {log log' : TokenLog}

theorem Between.quiet (between : Between state log) (quiet : Quiet log log') :
    Between state log' :=
  ⟨quiet.tracks between.tracks, quiet.marked between.marked, quiet.drained.trans between.drained⟩

/-- A run that fails with workers has cancelled the stale ones. -/
theorem Between.fails (between : Between state log) (e : HarnessError) : log.Over (.error e) := by
  refine ⟨fun all => .inr fun id worker here => ?_, ?_⟩
  · rw [← between.marked id worker here]
    exact all id worker here
  · rintro (drained | stale) id worker here
    · rw [between.drained] at drained
      cases drained
    · rw [between.marked id worker here]
      exact stale id worker here

theorem Ended.fails (ended : Ended log) (e : HarnessError) : log.Over (.error e) :=
  ⟨fun _ => .inl ended.drained, fun _ => ended.cancelled⟩

/-- Tokens that may be cancelled are. -/
theorem ensures_cancelAll (ids : List Nat)
    (justified : ∀ id ∈ ids, ∀ worker, log.Live id worker →
      worker.stale = true ∨ log.ending = true) :
    Ensures separateRuns TokenLog.Kept
      (fun outcome log' => outcome = .ok () ∧ log' = ids.foldl TokenLog.cancel log)
      (cancelAll ids).run log := by
  induction ids generalizing log with
  | nil => exact Ensures.check ⟨rfl, rfl⟩
  | cons first ids ih =>
    refine ensures_ask (justified first List.mem_cons_self) ?_
    rintro _ _ _ rfl
    refine ih fun id member worker here => ?_
    obtain ⟨before, there, rfl⟩ := TokenLog.live_cancel.1 here
    exact justified id (List.mem_cons_of_mem _ member) before there

/-- **A fencing look** cancels the workers it finds stale. -/
theorem ensures_cancelFencedWorkers (snapshot : TaskGraphSnapshot) (between : Between state log) :
    Ensures separateRuns TokenLog.Kept
      (fun outcome log' => outcome = .ok () ∧ Between state log' ∧ log'.ending = log.ending)
      (cancelFencedWorkers snapshot state).run log := by
  refine ensures_ask (c := .nowMs (.fencing snapshot)) between.marked.fenced ?_
  rintro nowMs _ _ rfl
  have listed := between.tracks.mem_fenced snapshot.graph nowMs
  refine (ensures_cancelAll _ ?_).mono ?_
  · intro id member worker here
    obtain ⟨before, there, rfl⟩ := TokenLog.live_fence.1 here
    obtain ⟨found, alive, stale⟩ := (listed id).1 member
    rw [alive.unique there] at stale
    exact .inl (by simp [stale])
  · rintro outcome log' ⟨done, rfl⟩
    have flags := TokenLog.cancels_flags (log.fence snapshot.graph nowMs)
      (state.fenced snapshot.graph nowMs)
    refine ⟨done, ⟨between.tracks.congr fun id claim => ?_, fun id worker here => ?_,
      flags.2.trans between.drained⟩, flags.1⟩
    · constructor
      · rintro ⟨worker, here, rfl⟩
        obtain ⟨_, there, rfl⟩ := TokenLog.live_cancels.1 here
        obtain ⟨before, alive, rfl⟩ := TokenLog.live_fence.1 there
        exact ⟨before, alive, rfl⟩
      · rintro ⟨before, alive, rfl⟩
        exact ⟨_, TokenLog.live_cancels.2 ⟨_, TokenLog.live_fence.2 ⟨before, alive, rfl⟩, rfl⟩, rfl⟩
    · obtain ⟨_, there, rfl⟩ := TokenLog.live_cancels.1 here
      obtain ⟨before, alive, rfl⟩ := TokenLog.live_fence.1 there
      have member : id ∈ state.fenced snapshot.graph nowMs ↔
          claimIsCurrent snapshot.graph before.claim nowMs = false := by
        rw [listed]
        refine ⟨?_, fun stale => ⟨before, alive, stale⟩⟩
        rintro ⟨found, here, stale⟩
        rw [alive.unique here]
        exact stale
      dsimp only
      rw [between.marked id before alive]
      refine congrArg (before.stale || ·) ?_
      rw [Bool.eq_iff_iff, decide_eq_true_iff, Bool.not_eq_true', member]

/-- **At the end** every worker is cancelled before they are drained. -/
theorem ensures_cancelWorkers (between : Between state log) (ending : log.ending = true) :
    Ensures separateRuns TokenLog.Kept (fun outcome log' => outcome = .ok () ∧ Ended log')
      (cancelWorkers state).run log := by
  refine Ensures.tryBind (ensures_cancelAll _ fun _ _ _ _ => .inr ending)
    (fun e _ failed => nomatch failed.1) ?_
  rintro _ _ ⟨_, rfl⟩
  have all : ((OrdMap.values state.workerCancellations).foldl TokenLog.cancel log).AllCancelled := by
    intro id worker here
    obtain ⟨before, there, rfl⟩ := TokenLog.live_cancels.1 here
    have held := OrdMap.mem_values.2 ⟨_, between.tracks.tokens id before there⟩
    simp [held]
  rintro v rfl
  refine ⟨all, fun _ _ executes => ?_⟩
  obtain ⟨_, rfl⟩ := executes
  exact ⟨rfl, all, rfl⟩

theorem ensures_spawnClaims (o : Orchestrator) (graphId : TaskGraphId) (claims : List TaskClaim)
    (between : Between state log) :
    Ensures separateRuns TokenLog.Kept
      (fun outcome log' => ∃ state', outcome = .ok state' ∧ Between state' log')
      (o.spawnClaims graphId state claims).run log := by
  induction claims generalizing state log with
  | nil => exact Ensures.check ⟨state, rfl, between⟩
  | cons claim claims ih =>
    refine ensures_ask (c := .spawn (o.execution graphId claim)) between.marked.fenced ?_
    rintro _ _ separate ⟨rfl, rfl⟩
    refine ih ⟨between.tracks.spawned separate, fun id worker here => ?_, between.drained⟩
    rcases TokenLog.live_spawned.1 here with here | ⟨_, rfl⟩
    · exact between.marked id worker here
    · rfl

/-- What a round ends with. -/
def RoundOver (outcome : Except HarnessError Round) (log : TokenLog) : Prop :=
  match outcome with
  | .ok (.again state) => Between state log
  | .ok (.returned _) => log.AllCancelled
  | .error e => log.Over (.error e)

theorem ensures_fill (o : Orchestrator) (graphId : TaskGraphId) (between : Between state log) :
    Ensures separateRuns TokenLog.Kept (fun outcome log' => match outcome with
      | .ok state' => Between state' log'
      | .error e => log'.Over (.error e)) (o.fill graphId state).run log := by
  unfold fill
  dsimp only
  split
  · refine Ensures.tryBind (ensures_claimAvailable o graphId _ between.marked.fenced)
      (fun e _ quiet => (between.quiet quiet).fails e) fun claims claimed quiet => ?_
    refine (ensures_spawnClaims o graphId claims (between.quiet quiet)).mono ?_
    rintro _ _ ⟨state', rfl, between⟩
    exact between
  · exact Ensures.check between

theorem ensures_stop (between : Between state log) (ending : log.ending = true) :
    Ensures separateRuns TokenLog.Kept RoundOver (stop state).run log := by
  refine Ensures.tryBind (ensures_cancelWorkers between ending)
    (fun e _ failed => nomatch failed.1) fun _ _ ended => ?_
  exact Ensures.check (ended.2.fails orchestrationCancelled)

/-- A joined worker leaves with its token. -/
theorem ensures_settleJoined (o : Orchestrator) (graphId : TaskGraphId) {id : Nat}
    {worker : TokenWorker} (between : Between state log) (here : log.Live id worker)
    (result : Except JoinError ExecutorOutcome) :
    Ensures separateRuns TokenLog.Kept RoundOver (o.settleJoined graphId state id result).run
      (log.joined id) := by
  have held := (between.tracks.claims id worker.claim).2 ⟨worker, here, rfl⟩
  have next : Between (state.removed id worker.claim) (log.joined id) :=
    ⟨between.tracks.joined here,
      fun other worker' there => between.marked other worker' (TokenLog.live_joined.1 there).1,
      between.drained⟩
  unfold settleJoined
  rw [held]
  refine Ensures.checkBind (fun e failed => nomatch failed) fun claim found => ?_
  obtain rfl : worker.claim = claim := Except.ok.inj found
  split
  · exact Ensures.check next
  · refine Ensures.tryBind (ensures_settle o graphId _ _ next.marked.fenced)
      (fun e _ quiet => (next.quiet quiet).fails e) fun _ _ quiet => ?_
    exact Ensures.check (next.quiet quiet)

theorem ensures_await (o : Orchestrator) (graphId : TaskGraphId) (between : Between state log) :
    Ensures separateRuns TokenLog.Kept RoundOver (o.await graphId state).run log := by
  refine ensures_ask (c := .selectWorker) between.marked.fenced ?_
  rintro (_ | (_ | ⟨id, result⟩) | _) log' _ executes
  · obtain rfl := executes
    exact ensures_stop (between.quiet ⟨rfl, rfl⟩) rfl
  · obtain ⟨_, rfl⟩ := executes
    exact Ensures.check (between.fails (.orchestration "Orchestrator lost its active worker set"))
  · obtain ⟨⟨worker, here⟩, rfl⟩ := executes
    exact ensures_settleJoined o graphId between here result
  · obtain rfl := executes
    exact Ensures.check between

theorem ensures_round (o : Orchestrator) (graphId : TaskGraphId) (between : Between state log) :
    Ensures separateRuns TokenLog.Kept RoundOver (o.round graphId state).run log := by
  refine ensures_ask (c := .isCancelled) between.marked.fenced ?_
  rintro cancelled _ _ rfl
  have between : Between state { log with ending := cancelled } := between.quiet ⟨rfl, rfl⟩
  split
  · rename_i ended
    exact ensures_stop between ended
  · refine Ensures.tryBind (ensures_loadGraph o graphId between.marked.fenced)
      (fun e _ loaded => (between.quiet loaded.1).fails e) fun snapshot _ loaded => ?_
    have ending := loaded.2 snapshot rfl
    refine Ensures.tryBind (ensures_cancelFencedWorkers snapshot (between.quiet loaded.1))
      (fun e _ failed => nomatch failed.1) fun _ _ fenced => ?_
    obtain ⟨_, between, same⟩ := fenced
    split
    · rename_i terminal
      refine Ensures.tryBind (ensures_cancelWorkers between (same.trans (ending.trans terminal)))
        (fun e _ failed => nomatch failed.1) fun _ _ ended => ?_
      exact Ensures.check ended.2.cancelled
    · refine Ensures.tryBind (ensures_fill o graphId between) (fun e _ failed => failed)
        fun state' _ between => ?_
      refine ensures_ask (c := .workersIsEmpty) between.marked.fenced ?_
      rintro isEmpty _ _ ⟨_, rfl⟩
      split
      · refine ensures_ask (c := .poll) between.marked.fenced ?_
        rintro stopped _ _ rfl
        refine Ensures.checkBind (fun e _ => between.fails e) fun _ _ => ?_
        exact Ensures.check between
      · exact ensures_await o graphId between

theorem ensures_runRounds (o : Orchestrator) (graphId : TaskGraphId) (rounds : Nat)
    (between : Between state log) :
    Ensures separateRuns TokenLog.Kept (fun outcome log' => log'.Over outcome)
      (o.runRounds graphId rounds state).run log := by
  induction rounds generalizing state log with
  | zero => exact Ensures.check between.marked.fenced
  | succ rounds ih =>
    refine Ensures.tryBind (ensures_round o graphId between) (fun e _ failed => failed) ?_
    rintro (snapshot | next) log' ended
    · exact Ensures.check ended
    · exact ih ended

end Round

/-- **Tokens follow the claims.**  In every run that spawns no claim for a Task that has a
worker, a token is cancelled only for a worker that a fencing look found stale or at the end
of the run; the workers found stale are cancelled before anything else is done, all of them
are before they are drained, and a run that fails has cancelled them all exactly when it
drained them or had found all of them stale. -/
theorem tokens_follow_claims (o : Orchestrator) (graphId : TaskGraphId) (rounds : Nat)
    {task : Task RunnerCall RunnerReply (Except HarnessError (Option TaskGraphSnapshot))}
    {log : TokenLog}
    (reached : Task.Reaches separateRuns (o.run graphId rounds).run .empty task log) :
    log.Holds task := by
  have between : Between .empty .empty := ⟨Tracks.empty, fun _ _ here => (nomatch here.1), rfl⟩
  have ensured := (ensures_runRounds o graphId rounds between).reaches reached
  cases task with
  | done outcome => exact ensured
  | call c next => exact (ensured log rfl).1

/-! ## A Task that is claimed again -/

/-- What the surroundings of a run answer: a snapshot, a time or a lease, or that nothing has
happened; a swap succeeds. -/
inductive TokenMove where
  | quiet
  | loaded (snapshot : TaskGraphSnapshot)
  | time (nowMs : UInt64)
  | lease (leaseId : TaskLeaseId)

namespace TokenLog

def answer : TokenMove → TokenLog → (c : RunnerCall) → Option (RunnerReply c × TokenLog)
  | .quiet, log, .isCancelled => some (false, { log with ending := false })
  | .loaded snapshot, log, .loadAs _ _ =>
    some (.ok (some snapshot), { log with ending := snapshot.graph.isTerminal })
  | .time nowMs, log, .nowMs (.fencing snapshot) => some (nowMs, log.fence snapshot.graph nowMs)
  | .time nowMs, log, .nowMs .scheduling => some (nowMs, log)
  | .lease leaseId, log, .generateLeases _ => some (fun _ => leaseId, log)
  | .quiet, log, .compareAndSwapAs snapshot _ _ => some (.ok snapshot, log)
  | .quiet, log, .spawn execution => some (log.workers.length, log.spawned execution.claim)
  | .quiet, log, .cancelWorker id => some ((), log.cancel id)
  | .quiet, log, .workersIsEmpty => if log.workers.any (!·.joined) then some (false, log) else none
  | .quiet, log, .selectWorker => some (.elapsed, log)
  | _, _, _ => none

theorem answer_legal (move : TokenMove) (log : TokenLog) (c : RunnerCall) (reply : RunnerReply c)
    (log' : TokenLog) (answered : answer move log c = some (reply, log')) :
    ∃ v, tokenSetting.rely log v ∧ tokenSetting.exec v c reply log' := by
  refine ⟨log, rfl, ?_⟩
  unfold answer at answered
  split at answered
  all_goals try
    obtain ⟨rfl, rfl⟩ := Prod.mk.inj (Option.some.inj answered)
    first | rfl | exact ⟨rfl, rfl⟩
  · split at answered
    · rename_i some_live
      obtain ⟨rfl, rfl⟩ := Prod.mk.inj (Option.some.inj answered)
      refine ⟨⟨nofun, fun none => ?_⟩, rfl⟩
      obtain ⟨worker, member, alive⟩ := List.any_eq_true.1 some_live
      obtain ⟨id, found⟩ := List.getElem?_of_mem member
      exact absurd ⟨found, by simpa using alive⟩ (none id worker)
    · cases answered
  · cases answered

end TokenLog

/-- An orchestrator with two workers and leases of 300 seconds. -/
def sampleOrchestrator : Orchestrator :=
  ⟨"worker", 2, 300000000000, ⟨"none", .denied⟩, ⟨.localProcess, none⟩, none, ∅⟩

def sampleSnapshot (revision : UInt64) (graph : TaskGraph) : TaskGraphSnapshot :=
  ⟨"plan", none, revision, graph⟩

/-- The graph after the ready Tasks were claimed. -/
def claimedAgain (graph : TaskGraph) (leaseId : TaskLeaseId) (nowMs : UInt64) : TaskGraph :=
  (graph.claimReadyGoverned (fun _ => leaseId) "worker" nowMs 300000 2 none ∅).toOption.elim graph
    (·.1)

def sampleFirst : TaskGraph := claimedAgain TaskGraph.sampleGraph "lease-1" 1000

def sampleSecond : TaskGraph := claimedAgain sampleFirst "lease-2" 302001

/-- A lease ends, and its Task is claimed again while the first worker is drained. -/
def sampleMoves : List TokenMove :=
  [.quiet, .loaded (sampleSnapshot 1 TaskGraph.sampleGraph), .time 1000,
    .quiet, .loaded (sampleSnapshot 1 TaskGraph.sampleGraph), .time 1000, .lease "lease-1", .quiet,
    .quiet, .quiet, .quiet,
    .quiet, .loaded (sampleSnapshot 2 sampleFirst), .time 302000, .quiet,
    .quiet, .loaded (sampleSnapshot 2 sampleFirst), .time 302001, .lease "lease-2", .quiet,
    .quiet, .quiet, .quiet,
    .quiet, .loaded (sampleSnapshot 3 sampleSecond), .time 302100]

/-- The worker whose token the next call cancels. -/
def cancelling {α : Type} : Task RunnerCall RunnerReply α → Option Nat
  | .call (.cancelWorker id) _ => some id
  | _ => none

theorem cancelling_eq {α : Type} {task : Task RunnerCall RunnerReply α} {id : Nat}
    (cancels : cancelling task = some id) : ∃ next, task = .call (.cancelWorker id) next := by
  unfold cancelling at cancels
  split at cancels
  · rename_i next
    exact ⟨next, by rw [Option.some.inj cancels]⟩
  · cases cancels

/-- The run of the sample after some of its moves, and where it is. -/
theorem sample_follows
    (answer : TokenMove → TokenLog → (c : RunnerCall) → Option (RunnerReply c × TokenLog))
    (moves : List TokenMove) (id : Nat) (workers : List (Bool × Bool × Bool))
    (computed : ((sampleOrchestrator.run "plan" 3).run.follow answer moves .empty).map
      (fun r => (cancelling r.1, r.2.workers.map fun worker =>
        (worker.stale, worker.cancelled, worker.joined), r.2.ending)) =
      some (some id, workers, false)) :
    ∃ next log, (sampleOrchestrator.run "plan" 3).run.follow answer moves .empty =
        some (.call (.cancelWorker id) next, log) ∧ log.ending = false ∧
      log.workers.map (fun worker => (worker.stale, worker.cancelled, worker.joined)) =
        workers := by
  obtain ⟨⟨task, log⟩, followed, here⟩ := Option.map_eq_some_iff.1 computed
  obtain ⟨cancels, states, ending⟩ : cancelling task = some id ∧ _ ∧ _ := by
    simpa only [Prod.mk.injEq] using here
  obtain ⟨next, rfl⟩ := cancelling_eq cancels
  exact ⟨next, log, followed, ending, states⟩

/-- **The worker of the new claim is cancelled.**  Its claim is current and the run goes on;
the token that its Task held was the first worker's. -/
theorem fresh_worker_cancelled :
    ∃ task log, Task.Reaches tokenSetting (sampleOrchestrator.run "plan" 3).run .empty task log ∧
      ¬ log.Holds task := by
  obtain ⟨next, log, followed, ending, states⟩ :=
    sample_follows TokenLog.answer sampleMoves 1 [(true, true, false), (false, false, false)]
      (by decide +kernel)
  refine ⟨_, log, Task.reaches_of_follow TokenLog.answer_legal followed, fun kept => ?_⟩
  obtain ⟨worker, found, flags⟩ : ∃ worker, log.workers[1]? = some worker ∧
      (worker.stale, worker.cancelled, worker.joined) = (false, false, false) := by
    have second := congrArg (·[1]?) states
    simpa only [List.getElem?_map, Option.map_eq_some_iff, List.getElem?_cons_succ,
      List.getElem?_cons_zero] using second
  simp only [Prod.mk.injEq] at flags
  rcases kept worker ⟨found, flags.2.2⟩ with stale | ended
  · rw [flags.1] at stale
    cases stale
  · rw [ending] at ended
    cases ended

/-- The answers of a run in which no Task is claimed again. -/
def TokenLog.answerSeparate (move : TokenMove) (log : TokenLog) :
    (c : RunnerCall) → Option (RunnerReply c × TokenLog)
  | .spawn execution =>
    if log.workers.all fun worker =>
        worker.joined || worker.claim.task.id != execution.claim.task.id then
      answer move log (.spawn execution)
    else none
  | c => answer move log c

theorem TokenLog.answerSeparate_legal (move : TokenMove) (log : TokenLog) (c : RunnerCall)
    (reply : RunnerReply c) (log' : TokenLog)
    (answered : answerSeparate move log c = some (reply, log')) :
    ∃ v, separateRuns.rely log v ∧ separateRuns.exec v c reply log' := by
  cases c
  case spawn execution =>
    unfold answerSeparate at answered
    dsimp only at answered
    split at answered
    · rename_i apart
      obtain ⟨v, rfl, executes⟩ := answer_legal move log _ reply log' answered
      refine ⟨v, rfl, fun id worker here => ?_, executes⟩
      have other := List.all_eq_true.1 apart worker (List.mem_of_getElem? here.1)
      simpa [here.2] using other
    · cases answered
  all_goals
    obtain ⟨v, rfl, executes⟩ := answer_legal move log _ reply log' answered
    exact ⟨v, rfl, trivial, executes⟩

/-- Up to the look that finds the first lease at its end, the sample is such a run. -/
theorem tokens_follow_claims_sample :
    ∃ next, ∃ log : TokenLog, log.Holds (.call (.cancelWorker 0) next) ∧ log.ending = false ∧
      log.workers.map (·.stale) = [true] := by
  obtain ⟨next, log, followed, ending, states⟩ :=
    sample_follows TokenLog.answerSeparate (sampleMoves.take 14) 0 [(true, false, false)]
      (by decide +kernel)
  refine ⟨next, log, ?_, ending, ?_⟩
  · exact tokens_follow_claims sampleOrchestrator "plan" 3
      (Task.reaches_of_follow TokenLog.answerSeparate_legal followed)
  · have stale := congrArg (List.map Prod.fst) states
    rw [List.map_map] at stale
    exact stale

end YHarness.Orchestration

/-
# YHarness.Orchestration.Progress -- dependencies, blocking and no deadlock

The scheduling guarantees of a Task Graph.  `validateAcyclic` makes the dependency
relation well founded (`Intact.wellFounded`): the order in which visits end lists
every Task after its dependencies.  `Coherent` relates the status of a Task to the
statuses of its dependencies; every batch keeps it, the block propagation because
it runs to its fixpoint.

With both, a graph that is not settled always has something to do
(`reachable_not_stuck`): a Pending Task all of whose dependencies are settled and
not dead is ready, and a least Pending Task is of that kind unless one Runs.
-/
import YHarness.Orchestration.Integrity

namespace YHarness.Orchestration

open YHarness.Lib YHarness.Kernel

set_option autoImplicit false

/-! ## Acyclic dependencies -/

/-- Every Task of the list stands before its dependencies. -/
def Topological (tasks : OrdMap TaskId TaskRecord) : List TaskId → Prop
  | [] => True
  | id :: rest =>
    (∀ record, tasks[id]? = some record →
      ∀ dependency ∈ record.definition.dependencies.toList, dependency ∈ rest) ∧
    Topological tasks rest

/-- What a visit, or a loop of visits, leaves of the visited Tasks. -/
structure Visited (tasks : OrdMap TaskId TaskRecord) (before after : List TaskId) : Prop where
  ordered : Topological tasks before → Topological tasks after
  grows : ∀ id ∈ before, id ∈ after

theorem Visited.refl (tasks : OrdMap TaskId TaskRecord) (visited : List TaskId) :
    Visited tasks visited visited :=
  ⟨id, fun _ member => member⟩

variable {tasks : OrdMap TaskId TaskRecord}

theorem Visited.trans {first second third : List TaskId} (left : Visited tasks first second)
    (right : Visited tasks second third) :
    Visited tasks first third :=
  ⟨fun ordered => right.ordered (left.ordered ordered),
    fun id member => right.grows id (left.grows id member)⟩

/-- A loop of visits visits everything it is given. -/
theorem visitAll_visited {step : List TaskId → TaskId → Except HarnessError (List TaskId)}
    (each : ∀ {before id after}, step before id = .ok after →
      Visited tasks before after ∧ id ∈ after) :
    ∀ (ids before : List TaskId) {after : List TaskId}, ids.foldlM step before = .ok after →
      Visited tasks before after ∧ ∀ id ∈ ids, id ∈ after := by
  intro ids
  induction ids with
  | nil =>
    intro before after ended
    rw [List.foldlM_nil] at ended
    obtain rfl := ok_eq_ok.1 ended
    exact ⟨.refl tasks _, by simp⟩
  | cons id ids ih =>
    intro before after ended
    rw [List.foldlM_cons, bind_eq_ok] at ended
    obtain ⟨middle, first, rest⟩ := ended
    obtain ⟨reached, here⟩ := each first
    obtain ⟨later, others⟩ := ih middle rest
    refine ⟨reached.trans later, ?_⟩
    intro other member
    rcases List.mem_cons.1 member with rfl | member
    · exact later.grows _ here
    · exact others other member

theorem visit_visited :
    ∀ (fuel : Nat) (id : TaskId) (visiting before : List TaskId) {after : List TaskId},
      visit tasks fuel id visiting before = .ok after → Visited tasks before after ∧ id ∈ after := by
  intro fuel
  induction fuel with
  | zero =>
    intro id visiting before after ended
    cases ended
  | succ fuel ih =>
    intro id visiting before after ended
    rw [visit] at ended
    split at ended
    · rename_i here
      obtain rfl := ok_eq_ok.1 ended
      exact ⟨.refl tasks _, here⟩
    · replace ended := rest_ok ended
      obtain ⟨record, found, ended⟩ := bind_eq_ok.1 ended
      rw [orError_eq_ok] at found
      obtain ⟨visited, dependencies, ended⟩ := bind_eq_ok.1 ended
      obtain rfl := ok_eq_ok.1 ended
      obtain ⟨reached, all⟩ := visitAll_visited (fun {before other after} visits =>
        ih other (id :: visiting) before visits) _ _ dependencies
      refine ⟨⟨?_, ?_⟩, List.mem_cons_self⟩
      · intro ordered
        refine ⟨?_, reached.ordered ordered⟩
        intro other same
        rw [found, Option.some.injEq] at same
        subst same
        exact all
      · intro other member
        exact List.mem_cons_of_mem _ (reached.grows other member)

/-- A path that repeats no Task is no longer than the map. -/
theorem path_length_le {visiting : List TaskId} (distinct : visiting.Nodup)
    (known : ∀ other ∈ visiting, tasks.contains other = true) :
    visiting.length ≤ tasks.size := by
  have keys : visiting ⊆ tasks.toList.map (·.1) := by
    intro other member
    obtain ⟨record, found⟩ := OrdMap.contains_iff.1 (known other member)
    exact List.mem_map.2 ⟨(other, record),
      Std.ExtTreeMap.mem_toList_iff_getElem?_eq_some.2 found, rfl⟩
  have short := (List.subperm_of_subset distinct keys).length_le
  rwa [List.length_map, Std.ExtTreeMap.length_toList] at short

/-- **Fuel.**  A path of visits repeats no Task, so fuel beyond the number of
Tasks changes nothing: the source's unbounded recursion is this one. -/
theorem visit_fuel :
    ∀ (fuel : Nat) (id : TaskId) (visiting visited : List TaskId), visiting.Nodup →
      (∀ other ∈ visiting, tasks.contains other = true) → tasks.size < fuel + visiting.length →
      visit tasks (fuel + 1) id visiting visited = visit tasks fuel id visiting visited := by
  intro fuel
  induction fuel with
  | zero =>
    intro id visiting visited distinct known long
    have short := path_length_le distinct known
    omega
  | succ fuel ih =>
    intro id visiting visited distinct known long
    rw [visit, visit]
    by_cases done : id ∈ visited
    · rw [if_pos done, if_pos done]
    · rw [if_neg done, if_neg done]
      by_cases cycle : id ∈ visiting
      · simp [cycle, rejectIf]
      · cases found : tasks[id]? with
        | none => rfl
        | some record =>
          have deeper : ∀ (other : TaskId) (visited : List TaskId),
              visit tasks (fuel + 1) other (id :: visiting) visited =
                visit tasks fuel other (id :: visiting) visited := by
            intro other visited
            apply ih
            · exact List.nodup_cons.2 ⟨cycle, distinct⟩
            · intro known' member
              rcases List.mem_cons.1 member with rfl | member
              · exact OrdMap.contains_iff.2 ⟨record, found⟩
              · exact known known' member
            · rw [List.length_cons]
              omega
          simp only [deeper]

namespace TaskGraph

/-- `dependency` is a dependency of the Task `id`. -/
def DependsOn (g : TaskGraph) (id dependency : TaskId) : Prop :=
  ∃ record, g.tasks[id]? = some record ∧ dependency ∈ record.definition.dependencies

/-- `ancestor` is reached from the Task `id` through dependencies. -/
def Ancestor (g : TaskGraph) (ancestor id : TaskId) : Prop :=
  Relation.TransGen (fun dependency id => g.DependsOn id dependency) ancestor id

variable {g : TaskGraph}

theorem acc_of_topological :
    ∀ (visited : List TaskId), Topological g.tasks visited →
      ∀ id ∈ visited, Acc (fun dependency id => g.DependsOn id dependency) id := by
  intro visited
  induction visited with
  | nil => intro _ id member; cases member
  | cons head rest ih =>
    rintro ⟨first, ordered⟩ id member
    rcases List.mem_cons.1 member with rfl | later
    · constructor
      rintro dependency ⟨record, found, depends⟩
      exact ih ordered dependency
        (first record found dependency (Std.ExtTreeSet.mem_toList.2 depends))
    · exact ih ordered id later

theorem wellFounded_of_acyclic (acyclic : validateAcyclic g.tasks = .ok ()) :
    WellFounded fun dependency id => g.DependsOn id dependency := by
  rw [validateAcyclic] at acyclic
  obtain ⟨visited, visits, _⟩ := bind_eq_ok.1 acyclic
  obtain ⟨reached, all⟩ := visitAll_visited
    (fun {before id after} visited => visit_visited _ id [] before visited) _ _ visits
  constructor
  intro id
  constructor
  rintro dependency ⟨record, found, depends⟩
  have listed : id ∈ visited := all id (List.mem_map.2 ⟨(id, record),
    Std.ExtTreeMap.mem_toList_iff_getElem?_eq_some.2 found, rfl⟩)
  exact (acc_of_topological visited (reached.ordered trivial) id listed).inv
    ⟨record, found, depends⟩

/-- Rebuilding from the definitions gives the same dependencies. -/
theorem Intact.rebuilt_dependsOn (intact : g.Intact) {tasks : OrdMap TaskId TaskRecord}
    (inserted : insertDefinitions ∅ g.definitions = .ok tasks) {id dependency : TaskId} :
    g.DependsOn id dependency ↔ ∃ record, tasks[id]? = some record ∧
      dependency ∈ record.definition.dependencies := by
  simp only [DependsOn, get?_of_inserted inserted, TaskGraph.definitions, List.mem_map]
  constructor
  · rintro ⟨record, found, depends⟩
    exact ⟨⟨record.definition, .pending, 0⟩, ⟨record.definition,
      ⟨record, OrdMap.mem_values.2 ⟨id, found⟩, rfl⟩, intact.keyed id record found, rfl⟩, depends⟩
  · rintro ⟨_, ⟨_, ⟨record, known, rfl⟩, rfl, rfl⟩, depends⟩
    exact ⟨record, intact.keyed.mem_values.1 known, depends⟩

/-- **Well-founded dependencies.** -/
theorem Intact.wellFounded (intact : g.Intact) :
    WellFounded fun dependency id => g.DependsOn id dependency := by
  obtain ⟨built, rebuilt⟩ := intact.rebuilt
  obtain ⟨_, tasks, inserted, _, acyclic, _, _⟩ := new_eq_ok.1 rebuilt
  have founded := wellFounded_of_acyclic (g := ⟨tasks, [], [], 1, 0⟩) acyclic
  refine Subrelation.wf ?_ founded
  intro dependency id depends
  exact (intact.rebuilt_dependsOn inserted).1 depends

/-- Every dependency is a Task of the graph. -/
theorem Intact.dependency_known (intact : g.Intact) {id dependency : TaskId}
    (depends : g.DependsOn id dependency) : ∃ record, g.tasks[dependency]? = some record := by
  obtain ⟨built, rebuilt⟩ := intact.rebuilt
  obtain ⟨_, tasks, inserted, checked, _, _, _⟩ := new_eq_ok.1 rebuilt
  obtain ⟨record, found, listed⟩ := (intact.rebuilt_dependsOn inserted).1 depends
  have known := checkAll_eq_ok.1 checked record (OrdMap.mem_values.2 ⟨id, found⟩)
  rw [checkDependencies, checkAll_eq_ok] at known
  have present := (seq_eq_ok.1 (known dependency (Std.ExtTreeSet.mem_toList.2 listed))).2
  rw [rejectIf_eq_ok, Bool.not_eq_false', OrdMap.contains_iff] at present
  obtain ⟨other, here⟩ := present
  obtain ⟨definition, member, rfl, rfl⟩ := (get?_of_inserted inserted).1 here
  obtain ⟨origin, known, rfl⟩ := List.mem_map.1 member
  exact ⟨origin, intact.keyed.mem_values.1 known⟩

/-! ## Statuses along dependencies -/

end TaskGraph

/-- `Running` or `Completed`: the Task has been started. -/
def TaskStatus.isStarted : TaskStatus → Bool
  | running _ | completed _ => true
  | _ => false

def TaskStatus.isBlocked : TaskStatus → Bool
  | blocked _ => true
  | _ => false

/-- `Failed` or `Cancelled`: the Task itself was stopped. -/
def TaskStatus.isStopped : TaskStatus → Bool
  | failed _ | cancelled _ => true
  | _ => false

namespace TaskGraph

/-- The status of a Task agrees with the statuses of its dependencies. -/
structure Coherent (g : TaskGraph) : Prop where
  started : ∀ (id : TaskId) (record : TaskRecord), g.tasks[id]? = some record →
    record.status.isStarted = true → ∀ dependency ∈ record.definition.dependencies,
      ∃ other : TaskRecord, g.tasks[dependency]? = some other ∧ other.status.isCompleted = true
  waiting : ∀ (id : TaskId) (record : TaskRecord), g.tasks[id]? = some record →
    record.status = .pending → ∀ dependency ∈ record.definition.dependencies,
      ∀ other : TaskRecord, g.tasks[dependency]? = some other → other.status.isDead = false
  blocked : ∀ (id : TaskId) (record : TaskRecord), g.tasks[id]? = some record →
    record.status.isBlocked = true → ∃ dependency ∈ record.definition.dependencies,
      ∃ other : TaskRecord, g.tasks[dependency]? = some other ∧ other.status.isDead = true

variable {g : TaskGraph} {record : TaskRecord}

theorem mem_deadTasks (keyed : g.Keyed) {id : TaskId} :
    id ∈ g.deadTasks ↔ ∃ record, g.tasks[id]? = some record ∧ record.status.isDead = true := by
  simp only [deadTasks, List.mem_map, List.mem_filter]
  constructor
  · rintro ⟨record, ⟨known, dead⟩, rfl⟩
    exact ⟨record, keyed.mem_values.1 known, dead⟩
  · rintro ⟨record, found, dead⟩
    have key := keyed id record found
    subst key
    exact ⟨record, ⟨keyed.mem_values.2 found, dead⟩, rfl⟩

theorem dependenciesCompleted_iff :
    g.dependenciesCompleted record = true ↔ ∀ dependency ∈ record.definition.dependencies,
      ∃ other, g.tasks[dependency]? = some other ∧ other.status.isCompleted = true := by
  simp only [dependenciesCompleted, List.all_eq_true, Std.ExtTreeSet.mem_toList, Option.any_eq_true]

theorem isTerminal_of_dead {status : TaskStatus} (dead : status.isDead = true) :
    status.isTerminal = true := by
  cases status <;> simp_all [TaskStatus.isDead, TaskStatus.isTerminal]

theorem isTerminal_of_completed {status : TaskStatus} (completed : status.isCompleted = true) :
    status.isTerminal = true := by
  cases status <;> simp_all [TaskStatus.isCompleted, TaskStatus.isTerminal]

/-- A schedulable record of a batch is not settled. -/
theorem Schedulable.live {expired : List TaskId}
    (requeued : ∀ id ∈ expired, ∃ record lease, g.tasks[id]? = some record ∧
      record.status = .running lease) (found : g.tasks[record.definition.id]? = some record)
    (schedulable : Schedulable expired record) : record.status.isTerminal = false := by
  rcases schedulable with pending | expired
  · rw [pending]; rfl
  · obtain ⟨other, lease, here, running⟩ := requeued _ expired
    rw [found, Option.some.injEq] at here
    rw [here, running]; rfl

/-- A batch writes only to Tasks that are not settled. -/
theorem Batch.live (keyed : g.Keyed) {mutations : List TaskMutation} (batch : Batch g mutations) :
    ∀ mutation ∈ mutations,
      ∃ record, g.tasks[mutation.id]? = some record ∧ record.status.isTerminal = false := by
  -- a propagated block hits a schedulable Task
  have blocks : ∀ {expired : List TaskId} {extra : Option TaskId} {mutation : TaskMutation},
      (∀ id ∈ expired, ∃ record lease, g.tasks[id]? = some record ∧
        record.status = .running lease) →
      mutation ∈ g.blockedMutations expired extra →
      ∃ record, g.tasks[mutation.id]? = some record ∧ record.status.isTerminal = false := by
    intro expired extra mutation requeued member
    obtain ⟨record, known, _, schedulable, _, _, _, rfl⟩ :=
      (blockedMutations_blocks g expired extra).each mutation member
    have found := keyed.mem_values.1 known
    exact ⟨record, found, schedulable.live requeued found⟩
  have releases : ∀ {mutation : TaskMutation}, g.Released mutation →
      ∃ record, g.tasks[mutation.id]? = some record ∧ record.status.isTerminal = false := by
    rintro mutation ⟨record, lease, found, running, _⟩
    exact ⟨record, found, by rw [running]; rfl⟩
  intro mutation member
  cases batch with
  | heartbeat _ found running | complete found running =>
    rw [List.mem_singleton] at member
    subst member
    exact ⟨_, found, by rw [running]; rfl⟩
  | stop found live =>
    rcases List.mem_cons.1 member with rfl | blocked
    · exact ⟨_, found, live⟩
    · exact blocks (by simp) blocked
  | release each => exact releases (each mutation member)
  | claim requeued released claims =>
    rcases List.mem_append.1 member with earlier | claimed
    · rcases List.mem_append.1 earlier with blocked | here
      · exact blocks requeued blocked
      · exact releases (released mutation here).1
    · obtain ⟨record, lease, claimed⟩ := claims mutation claimed
      exact ⟨record, claimed.found, claimed.live⟩

section Step

variable {g next : TaskGraph} {mutations : List TaskMutation}

variable {record : TaskRecord} {mutation : TaskMutation} {dependency : TaskId} {id : TaskId}

/-- A settled Task is not touched by a batch. -/
theorem Writes.settled (writes : Writes g mutations next) (keyed : g.Keyed)
    (batch : Batch g mutations) (found : g.tasks[id]? = some record)
    (terminal : record.status.isTerminal = true) :
    next.tasks[id]? = some record := by
  rw [writes.get?_of_unnamed, found]
  rintro mutation member rfl
  obtain ⟨other, here, live⟩ := batch.live keyed mutation member
  rw [found, Option.some.injEq] at here
  rw [← here, terminal] at live
  cases live

theorem Writes.completed (writes : Writes g mutations next) (keyed : g.Keyed)
    (batch : Batch g mutations) {dependency : TaskId}
    (before : ∃ other, g.tasks[dependency]? = some other ∧ other.status.isCompleted = true) :
    ∃ other, next.tasks[dependency]? = some other ∧ other.status.isCompleted = true := by
  obtain ⟨other, found, completed⟩ := before
  exact ⟨other, writes.settled keyed batch found (isTerminal_of_completed completed), completed⟩

theorem Writes.dead (writes : Writes g mutations next) (keyed : g.Keyed) (batch : Batch g mutations)
    (before : ∃ other, g.tasks[dependency]? = some other ∧ other.status.isDead = true) :
    ∃ other, next.tasks[dependency]? = some other ∧ other.status.isDead = true := by
  obtain ⟨other, found, dead⟩ := before
  exact ⟨other, writes.settled keyed batch found (isTerminal_of_dead dead), dead⟩

/-- A Task dead after a batch was dead before, or is named by a mutation that
makes it so. -/
theorem Writes.dead_cases (writes : Writes g mutations next) (found : next.tasks[id]? = some record)
    (dead : record.status.isDead = true) :
    (∃ mutation ∈ mutations, mutation.id = id ∧ mutation.status.isDead = true) ∨
      ∃ before, g.tasks[id]? = some before ∧ before.status.isDead = true := by
  rcases writes.lookup found with ⟨mutation, member, named, _, _, rfl⟩ | ⟨_, earlier⟩
  · exact .inl ⟨mutation, member, named, dead⟩
  · exact .inr ⟨record, earlier, dead⟩

/-- A Task a batch leaves started had all its dependencies Completed. -/
theorem Coherent.started_batch (coherent : g.Coherent) (batch : Batch g mutations)
    (member : mutation ∈ mutations) (started : mutation.status.isStarted = true)
    (found : g.tasks[mutation.id]? = some record) :
    ∀ dependency ∈ record.definition.dependencies,
      ∃ other, g.tasks[dependency]? = some other ∧ other.status.isCompleted = true := by
  have unblocked : ∀ {expired : List TaskId} {extra : Option TaskId},
      mutation ∉ g.blockedMutations expired extra := by
    intro expired extra blocked
    obtain ⟨_, _, _, _, _, _, _, rfl⟩ := (blockedMutations_blocks g expired extra).each _ blocked
    cases started
  have unreleased : ¬ g.Released mutation := by
    rintro ⟨_, _, _, _, shape⟩
    rw [shape] at started
    cases started
  cases batch with
  | heartbeat _ here running | complete here running =>
    rw [List.mem_singleton] at member
    subst member
    rw [here, Option.some.injEq] at found
    subst found
    exact coherent.started _ _ here (by rw [running]; rfl)
  | stop _ _ stopped =>
    rcases List.mem_cons.1 member with rfl | blocked
    · rcases stopped with rfl | rfl <;> cases started
    · exact absurd blocked unblocked
  | release each => exact absurd (each mutation member) unreleased
  | claim _ released claims =>
    rcases List.mem_append.1 member with earlier | claimed
    · rcases List.mem_append.1 earlier with blocked | here
      · exact absurd blocked unblocked
      · exact absurd (released mutation here).1 unreleased
    · obtain ⟨other, lease, claimed⟩ := claims mutation claimed
      rw [claimed.found, Option.some.injEq] at found
      subst found
      exact dependenciesCompleted_iff.1 claimed.completed

/-- After the propagation, no schedulable Task that it left alone has a
dependency that is dead or blocked by it. -/
theorem unblocked_dependency (expired : List TaskId) (extra : Option TaskId) (keyed : g.Keyed)
    (found : g.tasks[record.definition.id]? = some record) (live : record.status.isDead = false)
    (other : ∀ id ∈ extra, id ≠ record.definition.id)
    (unnamed : ∀ mutation ∈ g.blockedMutations expired extra,
      mutation.id ≠ record.definition.id) (schedulable : Schedulable expired record)
    (depends : dependency ∈ record.definition.dependencies) :
    dependency ∉ (g.blockedMutations expired extra).map (·.id) ∧ dependency ∉ extra ∧
      dependency ∉ g.deadTasks := by
  have outside : record.definition.id ∉
      (g.blockedMutations expired extra).map (·.id) ++ (extra.toList ++ g.deadTasks) := by
    simp only [List.mem_append, List.mem_map, Option.mem_toList, mem_deadTasks keyed, not_or]
    refine ⟨?_, fun here => other _ here rfl, ?_⟩
    · rintro ⟨mutation, member, named⟩
      exact unnamed mutation member named
    · rintro ⟨same, here, dead⟩
      rw [found, Option.some.injEq] at here
      rw [← here, live] at dead
      cases dead
  have closed := (blockedMutations_blocks g expired extra).closed record
    (keyed.mem_values.2 found) outside schedulable dependency (Std.ExtTreeSet.mem_toList.2 depends)
  simp only [List.mem_append, Option.mem_toList, not_or] at closed
  exact closed

/-- A mutation the propagation adds leaves its Task dead. -/
theorem blocked_isBlocked {expired : List TaskId} {extra : Option TaskId}
    (member : mutation ∈ g.blockedMutations expired extra) :
    mutation.status.isBlocked = true := by
  obtain ⟨_, _, _, _, _, _, _, rfl⟩ := (blockedMutations_blocks g expired extra).each _ member
  rfl

theorem isDead_of_blocked {status : TaskStatus} (blocked : status.isBlocked = true) :
    status.isDead = true := by
  cases status <;> simp_all [TaskStatus.isBlocked, TaskStatus.isDead]

/-- A Task a batch leaves Pending has no dead dependency. -/
theorem Coherent.waiting_batch (coherent : g.Coherent) (keyed : g.Keyed) (batch : Batch g mutations)
    (writes : Writes g mutations next) (found : next.tasks[id]? = some record)
    (pending : record.status = .pending) (depends : dependency ∈ record.definition.dependencies)
    {other : TaskRecord} (there : next.tasks[dependency]? = some other) :
    other.status.isDead = false := by
  rw [← Bool.not_eq_true]
  intro dead
  -- the record before the batch, with the mutation that requeued it if it was not Pending
  have before : ∃ old, g.tasks[id]? = some old ∧ old.definition = record.definition ∧
      (old.status = .pending ∧ (∀ mutation ∈ mutations, mutation.id ≠ id) ∨
        ∃ mutation ∈ mutations, mutation.id = id ∧ mutation.status = .pending) := by
    rcases writes.lookup found with ⟨mutation, member, named, old, here, rfl⟩ | ⟨unnamed, here⟩
    · exact ⟨old, here, rfl, .inr ⟨mutation, member, named, pending⟩⟩
    · exact ⟨record, here, rfl, .inl ⟨pending, unnamed⟩⟩
  obtain ⟨old, here, definition, how⟩ := before
  have key : old.definition.id = id := keyed id old here
  rw [← definition] at depends
  -- requeued Tasks were Running, so their dependencies are Completed and stay so
  have requeued : ∀ mutation, g.Released mutation → mutation.id = id → False := by
    rintro mutation ⟨same, lease, at_id, running, _⟩ rfl
    rw [here, Option.some.injEq] at at_id
    obtain ⟨done, stays, completed⟩ := writes.completed keyed batch
      (coherent.started _ old here (by rw [at_id, running]; rfl) dependency depends)
    rw [there, Option.some.injEq] at stays
    subst stays
    revert dead completed
    cases other.status <;> simp [TaskStatus.isCompleted, TaskStatus.isDead]
  have untouched : old.status = .pending →
      (∃ before, g.tasks[dependency]? = some before ∧ before.status.isDead = true) → False := by
    rintro was ⟨before, earlier, dead'⟩
    rw [coherent.waiting id old here was dependency depends before earlier] at dead'
    cases dead'
  cases batch with
  | heartbeat | complete =>
    rcases how with ⟨was, _⟩ | ⟨mutation, member, _, requeues⟩
    · rcases writes.dead_cases there dead with ⟨mutation, member, _, dies⟩ | before
      · rw [List.mem_singleton] at member
        subst member
        cases dies
      · exact untouched was before
    · rw [List.mem_singleton] at member
      subst member
      cases requeues
  | @stop stopped record' status reason _ _ ends _ =>
    rcases how with ⟨was, unnamed⟩ | ⟨mutation, member, _, requeues⟩
    · obtain ⟨unblocked, apart, alive⟩ := unblocked_dependency [] (some stopped)
        keyed (key ▸ here) (by rw [was]; rfl)
        (by
          intro id' same
          obtain rfl := Option.mem_some_iff.1 same
          rw [key]
          exact unnamed _ List.mem_cons_self)
        (by
          intro mutation member
          rw [key]
          exact unnamed mutation (List.mem_cons_of_mem _ member))
        (.inl was) depends
      rcases writes.dead_cases there dead with ⟨mutation, member, rfl, _⟩ | before
      · rcases List.mem_cons.1 member with rfl | blocked
        · exact apart rfl
        · exact unblocked (List.mem_map_of_mem blocked)
      · exact alive ((mem_deadTasks keyed).2 before)
    · rcases List.mem_cons.1 member with rfl | blocked
      · rcases ends with rfl | rfl <;> cases requeues
      · have blocks := blocked_isBlocked blocked
        rw [requeues] at blocks
        cases blocks
  | release each =>
    rcases how with ⟨was, _⟩ | ⟨mutation, member, named, _⟩
    · rcases writes.dead_cases there dead with ⟨mutation, member, _, dies⟩ | before
      · obtain ⟨_, _, _, _, shape⟩ := each mutation member
        rw [shape] at dies
        cases dies
      · exact untouched was before
    · exact requeued mutation (each mutation member) named
  | @claim expired released claimed requeues releases claims =>
    rcases how with ⟨was, unnamed⟩ | ⟨mutation, member, named, waits⟩
    · rcases writes.dead_cases there dead with ⟨mutation, member, rfl, dies⟩ | before
      · obtain ⟨unblocked, _, _⟩ := unblocked_dependency expired none keyed (key ▸ here)
          (by rw [was]; rfl) (by simp)
          (by
            intro mutation member
            rw [key]
            exact unnamed mutation (by simp [member]))
          (.inl was) depends
        rcases List.mem_append.1 member with earlier | claimed
        · rcases List.mem_append.1 earlier with blocked | released
          · exact unblocked (List.mem_map_of_mem blocked)
          · obtain ⟨_, _, _, _, shape⟩ := (releases mutation released).1
            rw [shape] at dies
            cases dies
        · obtain ⟨_, _, claimed⟩ := claims mutation claimed
          rw [claimed.status] at dies
          cases dies
      · exact untouched was before
    · rcases List.mem_append.1 member with earlier | claimed
      · rcases List.mem_append.1 earlier with blocked | released
        · have blocks := blocked_isBlocked blocked
          rw [waits] at blocks
          cases blocks
        · exact requeued mutation (releases mutation released).1 named
      · obtain ⟨_, _, claimed⟩ := claims mutation claimed
        rw [claimed.status] at waits
        cases waits

/-- A Task a batch blocks has a dependency that is dead afterwards. -/
theorem blocked_batch (keyed : g.Keyed) (batch : Batch g mutations)
    (writes : Writes g mutations next) (member : mutation ∈ mutations)
    (blocks : mutation.status.isBlocked = true) (found : g.tasks[mutation.id]? = some record) :
    ∃ dependency ∈ record.definition.dependencies,
      ∃ other, next.tasks[dependency]? = some other ∧ other.status.isDead = true := by
  -- a mutation of the propagation, when every dead end it starts from dies in the batch
  have propagated : ∀ {expired : List TaskId} {extra : Option TaskId},
      mutation ∈ g.blockedMutations expired extra →
      (∀ later ∈ g.blockedMutations expired extra, later ∈ mutations) →
      (∀ id ∈ extra, ∃ stop ∈ mutations, stop.id = id ∧ stop.status.isDead = true) →
      ∃ dependency ∈ record.definition.dependencies,
        ∃ other, next.tasks[dependency]? = some other ∧ other.status.isDead = true := by
    intro expired extra propagates all stops
    have dies : ∀ later ∈ mutations, later.status.isDead = true →
        ∃ other, next.tasks[later.id]? = some other ∧ other.status.isDead = true := by
      intro later among dead
      obtain ⟨before, _, after⟩ := writes.get?_of_named among
      exact ⟨_, after, dead⟩
    obtain ⟨same, known, _, _, dependency, depends, failed, shape⟩ :=
      (blockedMutations_blocks g expired extra).each mutation propagates
    have here : record = same := by
      have found' := keyed.mem_values.1 known
      rw [shape] at found
      rw [found', Option.some.injEq] at found
      exact found.symm
    subst here
    refine ⟨dependency, Std.ExtTreeSet.mem_toList.1 depends, ?_⟩
    rcases List.mem_append.1 failed with blocked | before
    · obtain ⟨later, among, rfl⟩ := List.mem_map.1 blocked
      exact dies later (all later among) (isDead_of_blocked (blocked_isBlocked among))
    · rcases List.mem_append.1 before with extra' | dead
      · obtain ⟨stop, among, rfl, dead⟩ := stops dependency (Option.mem_toList.1 extra')
        exact dies stop among dead
      · exact writes.dead keyed batch ((mem_deadTasks keyed).1 dead)
  have unreleased : ¬ g.Released mutation := by
    rintro ⟨_, _, _, _, shape⟩
    rw [shape] at blocks
    cases blocks
  cases batch with
  | heartbeat | complete =>
    rw [List.mem_singleton] at member
    subst member
    cases blocks
  | stop _ _ stopped =>
    rcases List.mem_cons.1 member with rfl | blocked
    · rcases stopped with rfl | rfl <;> cases blocks
    · refine propagated blocked (fun later among => List.mem_cons_of_mem _ among) ?_
      intro id same
      obtain rfl := Option.mem_some_iff.1 same
      refine ⟨_, List.mem_cons_self, rfl, ?_⟩
      rcases stopped with rfl | rfl <;> rfl
  | release each => exact absurd (each mutation member) unreleased
  | claim _ releases claims =>
    rcases List.mem_append.1 member with earlier | claimed
    · rcases List.mem_append.1 earlier with blocked | released
      · exact propagated blocked (fun later among => by simp [among]) (by simp)
      · exact absurd (releases mutation released).1 unreleased
    · obtain ⟨_, _, claimed⟩ := claims mutation claimed
      rw [claimed.status] at blocks
      cases blocks

/-- **One batch** keeps statuses coherent. -/
theorem Coherent.batch (coherent : g.Coherent) (keyed : g.Keyed) (batch : Batch g mutations)
    (writes : Writes g mutations next) : next.Coherent := by
  refine ⟨?_, ?_, ?_⟩
  · intro id record found started dependency depends
    rcases writes.lookup found with ⟨mutation, member, rfl, before, earlier, rfl⟩ | ⟨_, earlier⟩
    · exact writes.completed keyed batch
        (coherent.started_batch batch member started earlier dependency depends)
    · exact writes.completed keyed batch
        (coherent.started id record earlier started dependency depends)
  · intro id record found pending dependency depends other there
    exact coherent.waiting_batch keyed batch writes found pending depends there
  · intro id record found blocked
    rcases writes.lookup found with ⟨mutation, member, rfl, before, earlier, rfl⟩ | ⟨_, earlier⟩
    · obtain ⟨dependency, depends, after⟩ :=
        blocked_batch keyed batch writes member blocked earlier
      exact ⟨dependency, depends, after⟩
    · obtain ⟨dependency, depends, before⟩ := coherent.blocked id record earlier blocked
      exact ⟨dependency, depends, writes.dead keyed batch before⟩

end Step

theorem Coherent.after (coherent : g.Coherent) (kept : g.Kept) (call : DomainCall) :
    (g.after call).Coherent := by
  unfold TaskGraph.after
  split
  · rename_i next performed
    rcases perform_cases kept.intact.keyed performed with ⟨mutations, batch, applied⟩ |
      ⟨message, sends, _⟩
    · obtain ⟨written, writes, rfl, _, _⟩ := applyTaskMutations_eq_ok kept.charged applied
      have after := coherent.batch kept.intact.keyed batch writes
      exact ⟨after.started, after.waiting, after.blocked⟩
    · obtain rfl := sends.after
      exact ⟨coherent.started, coherent.waiting, coherent.blocked⟩
  · exact coherent

theorem Reachable.coherent {assumed : TaskGraph → DomainCall → Prop} (reached : Reachable assumed g) :
    g.Coherent := by
  induction reached with
  | new built =>
    obtain ⟨_, tasks, inserted, _, _, _, rfl⟩ := new_eq_ok.1 built
    have pending : ∀ (id : TaskId) (record : TaskRecord), tasks[id]? = some record →
        record.status = .pending := by
      intro id record found
      obtain ⟨_, _, _, rfl⟩ := (get?_of_inserted inserted).1 found
      rfl
    refine ⟨?_, ?_, ?_⟩
    · intro id record found started
      rw [pending id record found] at started
      cases started
    · intro _ _ _ _ dependency _ other there
      rw [pending dependency other there]
      rfl
    · intro id record found blocked
      rw [pending id record found] at blocked
      cases blocked
  | call reached call _ ih => exact ih.after reached.kept call

/-! ## What a reachable graph guarantees -/

/-- The direct dependencies of a Task that is not dead are not dead. -/
theorem Coherent.dependency_alive (coherent : g.Coherent) {id dependency : TaskId}
    {record other : TaskRecord} (found : g.tasks[id]? = some record)
    (alive : record.status.isDead = false) (depends : dependency ∈ record.definition.dependencies)
    (there : g.tasks[dependency]? = some other) : other.status.isDead = false := by
  by_cases started : record.status.isStarted = true
  · obtain ⟨same, here, completed⟩ := coherent.started id record found started dependency depends
    rw [there, Option.some.injEq] at here
    subst here
    revert completed
    cases other.status <;> simp [TaskStatus.isCompleted, TaskStatus.isDead]
  · refine coherent.waiting id record found ?_ dependency depends other there
    revert alive started
    cases record.status <;> simp [TaskStatus.isStarted, TaskStatus.isDead]

/-- Along a chain of dependencies: the induction is from the Task towards its
ancestors, and a Task that is not dead has only dependencies that are not. -/
theorem Coherent.ancestor_alive (coherent : g.Coherent) (intact : g.Intact) {ancestor id : TaskId}
    (chain : g.Ancestor ancestor id) {record other : TaskRecord}
    (found : g.tasks[id]? = some record) (alive : record.status.isDead = false)
    (there : g.tasks[ancestor]? = some other) : other.status.isDead = false := by
  induction chain generalizing record with
  | single depends =>
    obtain ⟨same, here, depends⟩ := depends
    rw [found, Option.some.injEq] at here
    subst here
    exact coherent.dependency_alive found alive depends there
  | tail _ depends ih =>
    obtain ⟨middle, between⟩ := intact.dependency_known depends
    obtain ⟨same, here, depends⟩ := depends
    rw [found, Option.some.injEq] at here
    subst here
    exact ih between (coherent.dependency_alive found alive depends between)

/-- A Blocked Task has an ancestor that was stopped, not merely blocked. -/
theorem Coherent.stopped_ancestor (coherent : g.Coherent) (intact : g.Intact) :
    ∀ (id : TaskId) (record : TaskRecord), g.tasks[id]? = some record →
      record.status.isBlocked = true →
      ∃ (ancestor : TaskId) (other : TaskRecord), g.Ancestor ancestor id ∧
        g.tasks[ancestor]? = some other ∧ other.status.isStopped = true := by
  intro id
  induction id using intact.wellFounded.induction with
  | _ id ih =>
    intro record found blocked
    obtain ⟨dependency, depends, other, there, dead⟩ := coherent.blocked id record found blocked
    have link : g.DependsOn id dependency := ⟨record, found, depends⟩
    by_cases again : other.status.isBlocked = true
    · obtain ⟨ancestor, last, chain, known, stopped⟩ := ih dependency link other there again
      exact ⟨ancestor, last, chain.tail link, known, stopped⟩
    · refine ⟨dependency, other, .single link, there, ?_⟩
      revert dead again
      cases other.status <;>
        simp [TaskStatus.isDead, TaskStatus.isBlocked, TaskStatus.isStopped]

/-- **Dependency order.**  After any calls a started Task has only Completed
dependencies, a Pending Task waits for no dead Task, however long the chain, and
a Blocked Task has a dead dependency and a Failed or Cancelled ancestor. -/
theorem reachable_dependencies {assumed : TaskGraph → DomainCall → Prop} {g : TaskGraph}
    (reached : Reachable assumed g) :
    (∀ (id : TaskId) (record : TaskRecord), g.tasks[id]? = some record →
      record.status.isStarted = true → ∀ dependency ∈ record.definition.dependencies,
        ∃ other : TaskRecord, g.tasks[dependency]? = some other ∧
          other.status.isCompleted = true) ∧
    (∀ (id : TaskId) (record : TaskRecord), g.tasks[id]? = some record →
      record.status = .pending → ∀ (ancestor : TaskId) (other : TaskRecord),
        g.Ancestor ancestor id → g.tasks[ancestor]? = some other → other.status.isDead = false) ∧
    (∀ (id : TaskId) (record : TaskRecord), g.tasks[id]? = some record →
      record.status.isBlocked = true →
        (∃ dependency ∈ record.definition.dependencies, ∃ other : TaskRecord,
          g.tasks[dependency]? = some other ∧ other.status.isDead = true) ∧
        ∃ (ancestor : TaskId) (other : TaskRecord), g.Ancestor ancestor id ∧
          g.tasks[ancestor]? = some other ∧ other.status.isStopped = true) := by
  have coherent := reached.coherent
  have intact := reached.kept.intact
  refine ⟨coherent.started, ?_, ?_⟩
  · intro id record found pending ancestor other chain there
    exact coherent.ancestor_alive intact chain found (by rw [pending]; rfl) there
  · intro id record found blocked
    exact ⟨coherent.blocked id record found blocked,
      coherent.stopped_ancestor intact id record found blocked⟩

/-- The dependent of the failed Task is Blocked, and that Task is its ancestor. -/
theorem reachable_dependencies_failed :
    (sampleFailed.tasks["test"]?.map fun record => record.status) =
        some (.blocked "dependency build did not complete") ∧
      ∃ (ancestor : TaskId) (other : TaskRecord), sampleFailed.Ancestor ancestor "test" ∧
        sampleFailed.tasks[ancestor]? = some other ∧ other.status.isStopped = true := by
  have status : (sampleFailed.tasks["test"]?.map fun record => record.status) =
      some (.blocked "dependency build did not complete") := by decide +kernel
  obtain ⟨record, found, blocked⟩ := Option.map_eq_some_iff.1 status
  refine ⟨status, ?_⟩
  exact ((reachable_dependencies sampleFailed_reachable).2.2 "test" record found
    (by rw [blocked]; rfl)).2

theorem mem_ready (keyed : g.Keyed) {id : TaskId} (found : g.tasks[id]? = some record)
    (pending : record.status = .pending) (completed : g.dependenciesCompleted record = true) :
    id ∈ g.ready := by
  refine mem_inClaimOrder.2 ⟨record, ?_, keyed id record found⟩
  have listed : record ∈ OrdMap.values g.tasks := OrdMap.mem_values.2 ⟨id, found⟩
  simp [listed, pending, completed]

/-- **No deadlock.**  While a Task of a reachable graph is not settled, some Task is Running
or some Task is ready. -/
theorem reachable_not_stuck {assumed : TaskGraph → DomainCall → Prop} {g : TaskGraph}
    (reached : Reachable assumed g) {id : TaskId} {record : TaskRecord}
    (found : g.tasks[id]? = some record) (unsettled : record.status.isTerminal = false) :
    (∃ (id : TaskId) (record : TaskRecord) (lease : TaskLease), g.tasks[id]? = some record ∧
      record.status = .running lease) ∨ g.ready ≠ [] := by
  by_cases running : ∃ (id : TaskId) (record : TaskRecord) (lease : TaskLease),
      g.tasks[id]? = some record ∧ record.status = .running lease
  · exact .inl running
  · right
    have coherent := reached.coherent
    have intact := reached.kept.intact
    have settled : ∀ (id : TaskId) (record : TaskRecord), g.tasks[id]? = some record →
        record.status.isTerminal = false → record.status = .pending := by
      intro id record found unsettled
      cases status : record.status with
      | pending => rfl
      | running lease => exact absurd ⟨id, record, lease, found, status⟩ running
      | completed => rw [status] at unsettled; cases unsettled
      | failed => rw [status] at unsettled; cases unsettled
      | cancelled => rw [status] at unsettled; cases unsettled
      | blocked => rw [status] at unsettled; cases unsettled
    -- a Pending Task that depends on no Pending Task: its dependencies are not dead
    obtain ⟨least, ⟨first, here, pending⟩, minimal⟩ := intact.wellFounded.has_min
      {id | ∃ record : TaskRecord, g.tasks[id]? = some record ∧ record.status = .pending}
      ⟨id, record, found, settled id record found unsettled⟩
    have completed : g.dependenciesCompleted first = true := by
      rw [dependenciesCompleted_iff]
      intro dependency depends
      obtain ⟨other, there⟩ := intact.dependency_known ⟨first, here, depends⟩
      refine ⟨other, there, ?_⟩
      have alive := coherent.waiting least first here pending dependency depends other there
      have waits : other.status ≠ .pending := fun also =>
        minimal dependency ⟨other, there, also⟩ ⟨first, here, depends⟩
      have ended : ¬ other.status.isTerminal = false := fun stays =>
        waits (settled dependency other there stays)
      revert alive ended
      cases other.status <;> simp [TaskStatus.isDead, TaskStatus.isTerminal, TaskStatus.isCompleted]
    exact List.ne_nil_of_mem (mem_ready intact.keyed here pending completed)

/-- Beside the two Tasks a third, which depends on neither. -/
def lintGraph : TaskGraph :=
  graphOf (sampleDefinitions ++ [⟨"lint", "lint the crate", ∅, 0, .isolated, ∅⟩])

/-- The first Task is claimed and fails. -/
def lintFailed : TaskGraph :=
  (lintGraph.after (.claimReady (fun _ => "lease-1") "worker-1" 10 100 1)).after
    (.fail "build" "lease-1" 20 "no compiler")

/-- The Task that depends on neither is still to be done. -/
theorem reachable_not_stuck_failed :
    (lintFailed.tasks.toList.map fun entry => entry.2.status) =
        [.failed "no compiler", .pending, .blocked "dependency build did not complete"] ∧
      ((∃ (id : TaskId) (record : TaskRecord) (lease : TaskLease),
          lintFailed.tasks[id]? = some record ∧ record.status = .running lease) ∨
        lintFailed.ready ≠ []) := by
  have reached : Reachable Fresh lintFailed :=
    .call (.call (.new (graphOf_built (by decide +kernel)))
      (.claimReady (fun _ => "lease-1") "worker-1" 10 100 1) trivial)
      (.fail "build" "lease-1" 20 "no compiler") trivial
  have status : (lintFailed.tasks["lint"]?.map fun record => record.status) =
      some .pending := by decide +kernel
  obtain ⟨record, found, pending⟩ := Option.map_eq_some_iff.1 status
  exact ⟨by decide +kernel, reachable_not_stuck reached found (by rw [pending]; rfl)⟩

end TaskGraph

end YHarness.Orchestration

/-
# YHarness.Orchestration.Schedule -- the calls of a Task Graph and their batches

`DomainCall` lists the calls that change a graph, `Reachable` the graphs that any
sequence of them leads to from `TaskGraph::new`.  `Batch` says which mutations a
successful call hands to `applyTaskMutations`; `perform_cases` is the only place
where the operations themselves are opened.

The block propagation is a fixpoint loop.  `Blocks` is what it returns: every
mutation blocks a schedulable Task over a dependency that is dead or blocked by
the same batch, and no schedulable Task with such a dependency is left out
(`blockedMutations_blocks`).
-/
import YHarness.Orchestration.Mutate

namespace YHarness.Orchestration

open YHarness.Lib YHarness.Kernel

set_option autoImplicit false

namespace TaskGraph

/-- Every record stands under its own identity. -/
def Keyed (g : TaskGraph) : Prop :=
  ∀ (id : TaskId) (record : TaskRecord), g.tasks[id]? = some record → record.definition.id = id

variable {pendingOverrides failed : List TaskId} {g : TaskGraph}

theorem Keyed.mem_values (keyed : g.Keyed) {record : TaskRecord} :
    record ∈ OrdMap.values g.tasks ↔ g.tasks[record.definition.id]? = some record := by
  rw [OrdMap.mem_values]
  constructor
  · rintro ⟨id, found⟩
    rw [keyed id record found]
    exact found
  · intro found
    exact ⟨_, found⟩

/-! ## Block propagation -/

/-- `schedulable` Tasks are Pending, or requeued by the same batch. -/
def Schedulable (pendingOverrides : List TaskId) (record : TaskRecord) : Prop :=
  record.status = .pending ∨ record.definition.id ∈ pendingOverrides

/-- `mutation` blocks `record` over a dependency in `failed`. -/
def BlocksOver (pendingOverrides failed : List TaskId) (record : TaskRecord)
    (mutation : TaskMutation) : Prop :=
  Schedulable pendingOverrides record ∧
    ∃ dependency ∈ record.definition.dependencies.toList, dependency ∈ failed ∧
      mutation = ⟨record.definition.id, .blocked s!"dependency {dependency} did not complete",
        record.attempts, none⟩

theorem mem_newlyBlocked {mutation : TaskMutation}
    (member : mutation ∈ g.newlyBlocked pendingOverrides failed) :
    ∃ record ∈ OrdMap.values g.tasks, record.definition.id ∉ failed ∧
      BlocksOver pendingOverrides failed record mutation := by
  rw [newlyBlocked, List.mem_filterMap] at member
  obtain ⟨record, known, blocks⟩ := member
  split at blocks
  · cases blocks
  · rename_i alive
    split at blocks
    · rename_i schedulable
      rw [Option.map_eq_some_iff] at blocks
      obtain ⟨dependency, found, rfl⟩ := blocks
      exact ⟨record, known, alive, schedulable, dependency, List.mem_of_find?_eq_some found,
        by simpa using List.find?_some found, rfl⟩
    · cases blocks

theorem newlyBlocked_eq_nil (none_left : g.newlyBlocked pendingOverrides failed = [])
    {record : TaskRecord} (known : record ∈ OrdMap.values g.tasks)
    (alive : record.definition.id ∉ failed) (schedulable : Schedulable pendingOverrides record)
    {dependency : TaskId} (depends : dependency ∈ record.definition.dependencies.toList) :
    dependency ∉ failed := by
  intro dead
  rw [newlyBlocked, List.filterMap_eq_nil_iff] at none_left
  have unblocked := none_left record known
  have waiting : record.status = .pending ∨ record.definition.id ∈ pendingOverrides := schedulable
  rw [if_neg alive, if_pos waiting, Option.map_eq_none_iff, List.find?_eq_none] at unblocked
  exact unblocked dependency depends (by simpa using dead)

/-- What the propagation returns, from the Tasks in `failed`. -/
structure Blocks (g : TaskGraph) (pendingOverrides failed : List TaskId)
    (mutations : List TaskMutation) : Prop where
  each : ∀ mutation ∈ mutations, ∃ record ∈ OrdMap.values g.tasks,
    record.definition.id ∉ failed ∧
      BlocksOver pendingOverrides (mutations.map (·.id) ++ failed) record mutation
  closed : ∀ record ∈ OrdMap.values g.tasks,
    record.definition.id ∉ mutations.map (·.id) ++ failed → Schedulable pendingOverrides record →
      ∀ dependency ∈ record.definition.dependencies.toList,
        dependency ∉ mutations.map (·.id) ++ failed

/-- The records a pass may still block. -/
def unfailed (g : TaskGraph) (failed : List TaskId) : List TaskRecord :=
  (OrdMap.values g.tasks).filter fun record => decide (record.definition.id ∉ failed)

/-- A pass that blocks something leaves fewer records to block. -/
theorem unfailed_decreases (some_left : g.newlyBlocked pendingOverrides failed ≠ []) :
    (g.unfailed ((g.newlyBlocked pendingOverrides failed).map (·.id) ++ failed)).length <
      (g.unfailed failed).length := by
  obtain ⟨mutation, member⟩ := List.exists_mem_of_ne_nil _ some_left
  obtain ⟨record, known, alive, _, _, _, _, rfl⟩ := mem_newlyBlocked member
  have narrower : g.unfailed ((g.newlyBlocked pendingOverrides failed).map (·.id) ++ failed) =
      (g.unfailed failed).filter fun record => decide (record.definition.id ∉
        (g.newlyBlocked pendingOverrides failed).map (·.id)) := by
    rw [unfailed, unfailed, List.filter_filter]
    apply List.filter_congr
    intro other _
    simp only [List.mem_append, not_or, Bool.decide_and]
  rw [narrower, List.length_filter_lt_length_iff_exists]
  refine ⟨record, List.mem_filter.2 ⟨known, decide_eq_true alive⟩, ?_⟩
  simpa using ⟨_, member, rfl⟩

/-- The loop, from the mutations already collected.  The measure is the number
of records not yet failed. -/
theorem blockedLoop_blocks :
    ∀ (fuel : Nat) (reached : List TaskId) (mutations : List TaskMutation),
      (g.unfailed reached).length < fuel →
      (∀ id, id ∈ reached ↔ id ∈ mutations.map (·.id) ++ failed) →
      (∀ mutation ∈ mutations, ∃ record ∈ OrdMap.values g.tasks,
        record.definition.id ∉ failed ∧
          BlocksOver pendingOverrides (mutations.map (·.id) ++ failed) record mutation) →
      Blocks g pendingOverrides failed (g.blockedLoop pendingOverrides fuel reached mutations) := by
  intro fuel
  induction fuel with
  | zero =>
    intro reached mutations bounded
    omega
  | succ fuel ih =>
    intro reached mutations bounded same each
    rw [blockedLoop]
    by_cases last : g.newlyBlocked pendingOverrides reached = []
    · simp only [last, List.isEmpty_nil, if_true]
      refine ⟨each, ?_⟩
      intro record known alive schedulable dependency depends
      rw [← same] at alive ⊢
      exact newlyBlocked_eq_nil last known alive schedulable depends
    · have nonempty : (g.newlyBlocked pendingOverrides reached).isEmpty = false := by
        simpa using last
      simp only [nonempty, Bool.false_eq_true, if_false]
      apply ih
      · have := unfailed_decreases last
        omega
      · intro id
        rw [List.mem_append, same, List.map_append]
        simp only [List.mem_append]
        tauto
      · intro mutation member
        rcases List.mem_append.1 member with old | new
        · obtain ⟨record, known, alive, schedulable, dependency, depends, dead, shape⟩ :=
            each mutation old
          refine ⟨record, known, alive, schedulable, dependency, depends, ?_, shape⟩
          rw [List.map_append]
          simp only [List.mem_append] at dead ⊢
          tauto
        · obtain ⟨record, known, alive, schedulable, dependency, depends, dead, shape⟩ :=
            mem_newlyBlocked new
          rw [same, List.mem_append, not_or] at alive
          rw [same] at dead
          refine ⟨record, known, alive.2, schedulable, dependency, depends, ?_, shape⟩
          rw [List.map_append]
          simp only [List.mem_append] at dead ⊢
          tauto

/-- **Block propagation** ends, and returns exactly the Tasks to block. -/
theorem blockedMutations_blocks (g : TaskGraph) (pendingOverrides : List TaskId)
    (additionalFailed : Option TaskId) :
    Blocks g pendingOverrides (additionalFailed.toList ++ g.deadTasks)
      (g.blockedMutations pendingOverrides additionalFailed) := by
  apply blockedLoop_blocks
  · have bounded : (g.unfailed (additionalFailed.toList ++ g.deadTasks)).length ≤
        (OrdMap.values g.tasks).length := List.length_filter_le _ _
    rw [OrdMap.length_values] at bounded
    omega
  · simp
  · simp

/-! ## Calls -/

end TaskGraph

/-- The calls that change a graph.  The identities a call generates are part of
it. -/
inductive DomainCall where
  | claimReady (generate : TaskId → TaskLeaseId) (owner : String)
      (nowMs leaseDurationMs : UInt64) (maximum : Nat)
  | claimReadyWithCapabilities (generate : TaskId → TaskLeaseId) (owner : String)
      (nowMs leaseDurationMs : UInt64) (maximum : Nat) (workerCapabilities : TaskCapabilitySet)
  | claimReadyWithBinding (generate : TaskId → TaskLeaseId) (owner : String)
      (nowMs leaseDurationMs : UInt64) (maximum : Nat) (executionBinding : Option ExecutionBinding)
  | claimReadyWithBindingAndCapabilities (generate : TaskId → TaskLeaseId) (owner : String)
      (nowMs leaseDurationMs : UInt64) (maximum : Nat) (executionBinding : Option ExecutionBinding)
      (workerCapabilities : TaskCapabilitySet)
  | claimReadyGoverned (generate : TaskId → TaskLeaseId) (owner : String)
      (nowMs leaseDurationMs : UInt64) (maximum : Nat) (executionBinding : Option ExecutionBinding)
      (workerCapabilities : TaskCapabilitySet)
  | heartbeat (taskId : TaskId) (leaseId : TaskLeaseId) (nowMs expiresAtMs : UInt64)
  | complete (taskId : TaskId) (leaseId : TaskLeaseId) (nowMs : UInt64)
      (completion : TaskCompletion)
  | fail (taskId : TaskId) (leaseId : TaskLeaseId) (nowMs : UInt64) (reason : String)
  | cancel (taskId : TaskId) (reason : String)
  | sendMessage (id : TaskMessageId) (sender receiver : TaskId) (body : String)
      (createdAtMs : UInt64)
  | releaseExpired (nowMs : UInt64)

namespace TaskGraph

/-- The graph a call leaves when it succeeds. -/
def perform (g : TaskGraph) : DomainCall → Except HarnessError TaskGraph
  | .claimReady generate owner nowMs leaseDurationMs maximum => do
    let (next, _) ← g.claimReady generate owner nowMs leaseDurationMs maximum
    .ok next
  | .claimReadyWithCapabilities generate owner nowMs leaseDurationMs maximum
      workerCapabilities => do
      let (next, _) ← g.claimReadyWithCapabilities generate owner nowMs leaseDurationMs maximum
        workerCapabilities
      .ok next
  | .claimReadyWithBinding generate owner nowMs leaseDurationMs maximum executionBinding => do
    let (next, _) ← g.claimReadyWithBinding generate owner nowMs leaseDurationMs maximum
      executionBinding
    .ok next
  | .claimReadyWithBindingAndCapabilities generate owner nowMs leaseDurationMs maximum
      executionBinding workerCapabilities => do
      let (next, _) ← g.claimReadyWithBindingAndCapabilities generate owner nowMs leaseDurationMs
        maximum executionBinding workerCapabilities
      .ok next
  | .claimReadyGoverned generate owner nowMs leaseDurationMs maximum executionBinding
      workerCapabilities => do
      let (next, _) ← g.claimReadyGoverned generate owner nowMs leaseDurationMs maximum
        executionBinding workerCapabilities
      .ok next
  | .heartbeat taskId leaseId nowMs expiresAtMs => g.heartbeat taskId leaseId nowMs expiresAtMs
  | .complete taskId leaseId nowMs completion => g.complete taskId leaseId nowMs completion
  | .fail taskId leaseId nowMs reason => g.fail taskId leaseId nowMs reason
  | .cancel taskId reason => g.cancel taskId reason
  | .sendMessage id sender receiver body createdAtMs => do
    let (next, _) ← g.sendMessage id sender receiver body createdAtMs
    .ok next
  | .releaseExpired nowMs => do
    let (next, _) ← g.releaseExpired nowMs
    .ok next

/-- The graph after a call, successful or not. -/
def after (g : TaskGraph) (call : DomainCall) : TaskGraph :=
  match g.perform call with
  | .ok next => next
  | .error _ => g

/-- The message identity a call generates is new to the graph.  Lease identities
need no assumption: `applyTaskMutations` rejects a reused one. -/
def Fresh (g : TaskGraph) : DomainCall → Prop
  | .sendMessage id _ _ _ _ => id ∉ g.messages.map (·.id)
  | _ => True

/-- The graphs that calls lead to from a construction.  `assumed` restricts the
calls: with `Fresh` the generated identities are new, with no restriction they are
arbitrary. -/
inductive Reachable (assumed : TaskGraph → DomainCall → Prop) : TaskGraph → Prop
  | new {definitions : List TaskDefinition} {g : TaskGraph}
      (built : TaskGraph.new definitions = .ok g) : Reachable assumed g
  | call {g : TaskGraph} (reached : Reachable assumed g) (call : DomainCall)
      (admitted : assumed g call) : Reachable assumed (g.after call)

/-! ## The batches of the calls -/

/-- A Running Task goes back to Pending. -/
def Released (g : TaskGraph) (mutation : TaskMutation) : Prop :=
  ∃ record lease, g.tasks[mutation.id]? = some record ∧ record.status = .running lease ∧
    mutation = ⟨mutation.id, .pending, record.attempts, none⟩

/-- A Task starts its next attempt. -/
structure Starts (g : TaskGraph) (mutation : TaskMutation) (record : TaskRecord)
    (lease : TaskLease) : Prop where
  found : g.tasks[mutation.id]? = some record
  status : mutation.status = .running lease
  attempts : mutation.attempts.toNat = record.attempts.toNat + 1
  attempt : lease.attempt = mutation.attempts
  owner : validateCapabilityName "worker" lease.owner = .ok ()
  governed : mutation.attemptBinding = none →
    ∀ evidence ∈ g.attemptBindings, evidence.taskId ≠ mutation.id

/-- A claim starts a Task that is not settled and whose dependencies are all
Completed. -/
structure Claimed (g : TaskGraph) (mutation : TaskMutation) (record : TaskRecord)
    (lease : TaskLease) : Prop extends Starts g mutation record lease where
  live : record.status.isTerminal = false
  completed : g.dependenciesCompleted record = true

/-- The batch a successful call applies. -/
inductive Batch (g : TaskGraph) : List TaskMutation → Prop
  | heartbeat {id : TaskId} {record : TaskRecord} {lease : TaskLease} (expiresAtMs : UInt64)
      (found : g.tasks[id]? = some record) (running : record.status = .running lease) :
      Batch g [⟨id, .running { lease with expiresAtMs }, record.attempts, none⟩]
  | complete {id : TaskId} {record : TaskRecord} {lease : TaskLease} {completion : TaskCompletion}
      (found : g.tasks[id]? = some record) (running : record.status = .running lease)
      (valid : validateCompletion id completion = .ok ()) :
      Batch g [⟨id, .completed completion, record.attempts, none⟩]
  | stop {id : TaskId} {record : TaskRecord} {status : TaskStatus} {reason : String}
      (found : g.tasks[id]? = some record) (live : record.status.isTerminal = false)
      (stopped : status = .failed reason ∨ status = .cancelled reason)
      (text : validateTaskText "Task terminal reason" reason = .ok ()) :
      Batch g (⟨id, status, record.attempts, none⟩ :: g.blockedMutations [] (some id))
  | release {mutations : List TaskMutation} (each : ∀ m ∈ mutations, g.Released m) :
      Batch g mutations
  | claim {expired : List TaskId} {released claimed : List TaskMutation}
      (requeued : ∀ id ∈ expired, ∃ record lease, g.tasks[id]? = some record ∧
        record.status = .running lease)
      (releases : ∀ m ∈ released, g.Released m ∧ m.id ∈ expired)
      (claims : ∀ m ∈ claimed, ∃ record lease, g.Claimed m record lease) :
      Batch g (g.blockedMutations expired none ++ released ++ claimed)

/-- One of the batches leads to the next graph. -/
abbrev Batched (g next : TaskGraph) : Prop :=
  ∃ mutations, Batch g mutations ∧ g.applyTaskMutations mutations = .ok next

/-- A sent message. -/
structure Sends (g : TaskGraph) (message : TaskMessage) (next : TaskGraph) : Prop where
  room : g.messages.length < maxMessages
  sender : g.tasks.contains message.sender = true
  receiver : g.tasks.contains message.receiver = true
  body : checkMessageBody message.body = .ok ()
  sequence : message.sequence = g.nextMessageSequence
  within : g.nextMessageSequence.toNat + 1 < UInt64.size
  fits : g.materializationChargeBytes + messageCharge message ≤ maxTaskGraphJsonBytes
  after : next = { g with
    nextMessageSequence := g.nextMessageSequence + 1
    messages := g.messages ++ [message]
    materializationChargeBytes := g.materializationChargeBytes + messageCharge message }

theorem validateTaskText_field {field field' value : String}
    (valid : validateTaskText field value = .ok ()) : validateTaskText field' value = .ok () := by
  rw [validateTaskText, rejectIf_eq_ok] at valid ⊢
  exact valid

variable {g next : TaskGraph} {executionBinding : Option ExecutionBinding} {taskId : TaskId}
  {nowMs : UInt64} {generate : TaskId → TaskLeaseId} {leaseId : TaskLeaseId}
  {workerCapabilities : TaskCapabilitySet} {owner : String}

theorem currentLease_eq_ok {g : TaskGraph} {lease : TaskLease}
    (held : g.currentLease taskId leaseId nowMs = .ok lease) :
    ∃ record, g.tasks[taskId]? = some record ∧ record.status = .running lease := by
  rw [currentLease] at held
  obtain ⟨record, found, held⟩ := bind_eq_ok.1 held
  refine ⟨record, orError_eq_ok.1 found, ?_⟩
  split at held
  · rename_i current running
    replace held := rest_ok (rest_ok held)
    rw [running, ok_eq_ok.1 held]
  · cases held

theorem attemptsOf_eq_ok {g : TaskGraph} {record : TaskRecord} {attempts : UInt32}
    (found : g.tasks[taskId]? = some record) (counted : g.attemptsOf taskId = .ok attempts) :
    attempts = record.attempts := by
  rw [attemptsOf, found] at counted
  exact ok_eq_ok.1 counted

theorem heartbeat_batch {nowMs expiresAtMs : UInt64}
    (performed : g.heartbeat taskId leaseId nowMs expiresAtMs = .ok next) : g.Batched next := by
  rw [heartbeat] at performed
  obtain ⟨lease, held, performed⟩ := bind_eq_ok.1 performed
  replace performed := rest_ok performed
  obtain ⟨attempts, counted, applied⟩ := bind_eq_ok.1 performed
  obtain ⟨record, found, running⟩ := currentLease_eq_ok held
  obtain rfl := attemptsOf_eq_ok found counted
  exact ⟨_, .heartbeat expiresAtMs found running, applied⟩

theorem complete_batch {completion : TaskCompletion}
    (performed : g.complete taskId leaseId nowMs completion = .ok next) : g.Batched next := by
  rw [complete] at performed
  obtain ⟨valid, performed⟩ := seq_eq_ok.1 performed
  obtain ⟨lease, held, performed⟩ := bind_eq_ok.1 performed
  obtain ⟨attempts, counted, applied⟩ := bind_eq_ok.1 performed
  obtain ⟨record, found, running⟩ := currentLease_eq_ok held
  obtain rfl := attemptsOf_eq_ok found counted
  exact ⟨_, .complete found running valid, applied⟩

theorem fail_batch {reason : String} (performed : g.fail taskId leaseId nowMs reason = .ok next) :
    g.Batched next := by
  rw [fail] at performed
  obtain ⟨valid, performed⟩ := seq_eq_ok.1 performed
  obtain ⟨lease, held, performed⟩ := bind_eq_ok.1 performed
  obtain ⟨attempts, counted, applied⟩ := bind_eq_ok.1 performed
  obtain ⟨record, found, running⟩ := currentLease_eq_ok held
  obtain rfl := attemptsOf_eq_ok found counted
  have live : record.status.isTerminal = false := by rw [running]; rfl
  exact ⟨_, .stop found live (.inl rfl) (validateTaskText_field valid), applied⟩

theorem cancel_batch {reason : String} (performed : g.cancel taskId reason = .ok next) :
    g.Batched next := by
  rw [cancel] at performed
  obtain ⟨valid, performed⟩ := seq_eq_ok.1 performed
  obtain ⟨record, found, performed⟩ := bind_eq_ok.1 performed
  obtain ⟨live, applied⟩ := seq_eq_ok.1 performed
  exact ⟨_, .stop (orError_eq_ok.1 found) (rejectIf_eq_ok.1 live) (.inr rfl)
    (validateTaskText_field valid), applied⟩

theorem isExpired_running {status : TaskStatus} (expired : status.isExpired nowMs = true) :
    ∃ lease, status = .running lease := by
  cases status with
  | running lease => exact ⟨lease, rfl⟩
  | _ => cases expired

theorem releaseExpired_batch (keyed : g.Keyed) {released : List TaskId}
    (performed : g.releaseExpired nowMs = .ok (next, released)) : g.Batched next := by
  rw [releaseExpired] at performed
  obtain ⟨result, applied, ended⟩ := bind_eq_ok.1 performed
  cases ended
  refine ⟨_, .release ?_, applied⟩
  intro mutation member
  rw [List.mem_map] at member
  obtain ⟨record, member, rfl⟩ := member
  obtain ⟨known, expired⟩ := List.mem_filter.1 member
  obtain ⟨lease, running⟩ := isExpired_running expired
  exact ⟨record, lease, keyed.mem_values.1 known, running, rfl⟩

/-- The Tasks in claim order are those of the given records. -/
theorem mem_inClaimOrder {records : List TaskRecord} {id : TaskId} :
    id ∈ inClaimOrder records ↔ ∃ record ∈ records, record.definition.id = id := by
  simp only [inClaimOrder, List.mem_map, List.mem_insertionSort, Prod.exists, Prod.mk.injEq]
  constructor
  · rintro ⟨_, _, ⟨record, known, rfl, rfl⟩, rfl⟩
    exact ⟨record, known, rfl⟩
  · rintro ⟨record, known, rfl⟩
    exact ⟨_, _, ⟨record, known, rfl, rfl⟩, rfl⟩

theorem mem_expiredTasks {g : TaskGraph} (keyed : g.Keyed) {id : TaskId}
    (expired : id ∈ g.expiredTasks nowMs) :
    ∃ record lease, g.tasks[id]? = some record ∧ record.status = .running lease := by
  rw [expiredTasks, List.mem_map] at expired
  obtain ⟨record, member, rfl⟩ := expired
  obtain ⟨known, expired⟩ := List.mem_filter.1 member
  obtain ⟨lease, running⟩ := isExpired_running expired
  exact ⟨record, lease, keyed.mem_values.1 known, running⟩

theorem claimReadyGoverned_batch (keyed : g.Keyed) {nowMs leaseDurationMs : UInt64} {maximum : Nat}
    {claims : List TaskClaim} {changed : Bool}
    (performed : g.claimReadyGoverned generate owner nowMs leaseDurationMs maximum
      executionBinding workerCapabilities = .ok (next, claims, changed)) : g.Batched next := by
  rw [claimReadyGoverned] at performed
  obtain ⟨worker, performed⟩ := seq_eq_ok.1 performed
  iterate 5 replace performed := rest_ok performed
  obtain ⟨governed, performed⟩ := seq_eq_ok.1 performed
  rw [rejectIf_eq_ok] at governed
  obtain ⟨released, releases, performed⟩ := bind_eq_ok.1 performed
  obtain ⟨claimed, starts, performed⟩ := bind_eq_ok.1 performed
  obtain ⟨result, applied, ended⟩ := bind_eq_ok.1 performed
  cases ended
  refine ⟨_, .claim (fun id => mem_expiredTasks keyed) ?_ ?_, applied⟩
  · intro mutation member
    obtain ⟨taskId, known, released⟩ := forall₂_exists_left (mapM_eq_ok.1 releases) member
    have expired := (List.mem_filter.1 known).1
    obtain ⟨record, lease, found, running⟩ := mem_expiredTasks keyed expired
    rw [releaseTask, found] at released
    obtain rfl := ok_eq_ok.1 released
    exact ⟨⟨record, lease, found, running, rfl⟩, expired⟩
  · intro mutation member
    obtain ⟨⟨_, claim⟩, among, rfl⟩ := List.mem_map.1 member
    obtain ⟨taskId, known, started⟩ := forall₂_exists_left (mapM_eq_ok.1 starts) among
    obtain ⟨record, member, rfl⟩ := mem_inClaimOrder.1 (List.mem_of_mem_take known)
    obtain ⟨here, selected⟩ := List.mem_filter.1 member
    have found := keyed.mem_values.1 here
    simp only [Bool.and_eq_true, Bool.or_eq_true, beq_iff_eq, decide_eq_true_eq] at selected
    obtain ⟨⟨⟨_, waiting⟩, _⟩, completed⟩ := selected
    rw [claimTask, found] at started
    obtain ⟨overflow, started⟩ := seq_eq_ok.1 started
    rw [rejectIf_decide, not_le] at overflow
    cases started
    refine ⟨record, _, ⟨found, rfl, ?_, rfl, worker, ?_⟩, ?_, completed⟩
    · show (record.attempts + 1).toNat = record.attempts.toNat + 1
      rw [UInt32.toNat_add]
      exact Nat.mod_eq_of_lt overflow
    · intro unbound evidence recorded same
      rw [Bool.and_eq_false_iff] at governed
      rcases governed with bound | free
      · cases executionBinding with
        | none => cases bound
        | some binding => cases unbound
      · rw [List.any_eq_false] at free
        apply free _ known
        rw [List.any_eq_true]
        exact ⟨evidence, recorded, by simpa using same⟩
    · rcases waiting with pending | expired
      · rw [pending]; rfl
      · obtain ⟨again, lease, found', running⟩ := mem_expiredTasks keyed expired
        rw [found, Option.some.injEq] at found'
        rw [found', running]; rfl

/-- The order of claims names each record once. -/
theorem inClaimOrder_perm (records : List TaskRecord) :
    (inClaimOrder records).Perm (records.map fun record => record.definition.id) := by
  have sorted := List.perm_insertionSort ClaimsBefore
    (records.map fun record => (record.definition.priority, record.definition.id))
  have named := sorted.map Prod.snd
  rw [List.map_map] at named
  exact named

/-- The identities of a graph's records are its keys. -/
theorem Keyed.ids {g : TaskGraph} (keyed : g.Keyed) :
    (OrdMap.values g.tasks).map (fun record => record.definition.id) =
      g.tasks.toList.map (fun entry => entry.1) := by
  rw [OrdMap.values, List.map_map]
  apply List.map_congr_left
  rintro ⟨id, record⟩ member
  exact keyed id record (OrdMap.mem_toList.1 member)

/-- Claimable Tasks are distinct Tasks of the graph. -/
theorem Keyed.claimable {g : TaskGraph} (keyed : g.Keyed) (keep : TaskRecord → Bool)
    (maximum : Nat) :
    ((inClaimOrder ((OrdMap.values g.tasks).filter keep)).take maximum).Nodup ∧
      ∀ id ∈ (inClaimOrder ((OrdMap.values g.tasks).filter keep)).take maximum,
        id ∈ g.tasks.toList.map Prod.fst := by
  have ids : (((OrdMap.values g.tasks).filter keep).map fun record => record.definition.id).Sublist
      (g.tasks.toList.map fun entry => entry.1) := by
    rw [← keyed.ids]
    exact List.filter_sublist.map _
  have ordered := inClaimOrder_perm ((OrdMap.values g.tasks).filter keep)
  constructor
  · exact (List.take_sublist _ _).nodup (ordered.nodup_iff.2 (ids.nodup (OrdMap.nodup_keys g.tasks)))
  · intro id member
    exact ids.subset (ordered.mem_iff.1 (List.mem_of_mem_take member))

theorem claimTask_leases {g : TaskGraph} {nowMs expiresAtMs : UInt64} {ready : List TaskId}
    {claimed : List (TaskMutation × TaskClaim)}
    (starts : ready.mapM (g.claimTask generate owner nowMs expiresAtMs executionBinding) =
      .ok claimed) :
    (claimed.map (·.2)).map (fun claim => claim.lease.id) = ready.map generate := by
  rw [mapM_eq_ok] at starts
  induction starts with
  | nil => rfl
  | @cons taskId started ready claimed first _ ih =>
    obtain ⟨record, _, first⟩ := bind_eq_ok.1 first
    replace first := rest_ok first
    cases first
    exact congrArg (List.cons (generate taskId)) ih

/-- No mutation changes nothing. -/
theorem applyTaskMutations_nil (applied : g.applyTaskMutations [] = .ok next) :
    next = g := by
  replace applied := rest_ok applied
  obtain ⟨charge, checked, applied⟩ := bind_eq_ok.1 applied
  replace applied := rest_ok applied
  cases checked
  cases applied
  rfl

/-- **The leases of a claim** are those generated for Tasks of the graph, each once; a claim
that reports no change leaves the graph and claims nothing. -/
theorem claimReadyGoverned_leases (keyed : g.Keyed) {nowMs leaseDurationMs : UInt64} {maximum : Nat}
    {claims : List TaskClaim} {changed : Bool}
    (performed : g.claimReadyGoverned generate owner nowMs leaseDurationMs maximum
      executionBinding workerCapabilities = .ok (next, claims, changed)) :
    (∃ ready : List TaskId, ready.Nodup ∧ (∀ id ∈ ready, id ∈ g.tasks.toList.map Prod.fst) ∧
      claims.map (fun claim => claim.lease.id) = ready.map generate) ∧
    (changed = false → next = g ∧ claims = []) := by
  rw [claimReadyGoverned] at performed
  iterate 7 replace performed := rest_ok performed
  obtain ⟨released, _, performed⟩ := bind_eq_ok.1 performed
  obtain ⟨claimed, starts, performed⟩ := bind_eq_ok.1 performed
  obtain ⟨result, applied, ended⟩ := bind_eq_ok.1 performed
  cases ended
  constructor
  · have named := claimTask_leases starts
    exact ⟨_, (keyed.claimable _ _).1, (keyed.claimable _ _).2, named⟩
  · intro unchanged
    rw [Bool.not_eq_false', List.isEmpty_iff, List.append_eq_nil_iff, List.append_eq_nil_iff,
      List.map_eq_nil_iff] at unchanged
    obtain ⟨⟨unblocked, unreleased⟩, rfl⟩ := unchanged
    rw [unblocked, unreleased] at applied
    exact ⟨applyTaskMutations_nil applied, rfl⟩

theorem sendMessage_sends {id : TaskMessageId} {sender receiver : TaskId} {body : String}
    {createdAtMs : UInt64} {message : TaskMessage}
    (performed : g.sendMessage id sender receiver body createdAtMs = .ok (next, message)) :
    message.id = id ∧ Sends g message next := by
  rw [sendMessage] at performed
  obtain ⟨room, performed⟩ := seq_eq_ok.1 performed
  obtain ⟨known, performed⟩ := seq_eq_ok.1 performed
  obtain ⟨text, performed⟩ := seq_eq_ok.1 performed
  obtain ⟨within, performed⟩ := seq_eq_ok.1 performed
  obtain ⟨cost, charged, performed⟩ := bind_eq_ok.1 performed
  obtain ⟨total, added, performed⟩ := bind_eq_ok.1 performed
  obtain ⟨fits, performed⟩ := seq_eq_ok.1 performed
  obtain ⟨_, rfl⟩ := messageMaterializationCharge_eq_ok.1 charged
  obtain ⟨_, rfl⟩ := checkedGraphChargeAdd_eq_ok.1 added
  cases performed
  rw [rejectIf_eq_ok] at room known within
  simp only [Bool.or_eq_false_iff, Bool.not_eq_false', decide_eq_false_iff_not, not_le]
    at room known within
  exact ⟨rfl, room, known.1, known.2, text, rfl, within, validateGraphCharge_eq_ok.1 fits, rfl⟩

/-- **What a successful call does**: it applies one of the batches, or sends a
message. -/
theorem perform_cases (keyed : g.Keyed) {call : DomainCall} (performed : g.perform call = .ok next) :
    g.Batched next ∨ ∃ message, Sends g message next ∧
      (g.Fresh call → message.id ∉ g.messages.map (·.id)) := by
  have claims : ∀ {generate owner nowMs leaseDurationMs maximum binding capabilities},
      (do let (next, _) ← g.claimReadyWithBindingAndCapabilities generate owner nowMs
            leaseDurationMs maximum binding capabilities
          .ok next) = .ok next →
      g.Batched next := by
    intro _ _ _ _ _ _ _ performed
    obtain ⟨⟨after, claims⟩, claimed, ended⟩ := bind_eq_ok.1 performed
    cases ended
    rw [claimReadyWithBindingAndCapabilities] at claimed
    obtain ⟨⟨after, claims, changed⟩, claimed, ended⟩ := bind_eq_ok.1 claimed
    cases ended
    exact claimReadyGoverned_batch keyed claimed
  cases call with
  | claimReady => exact .inl (claims performed)
  | claimReadyWithCapabilities => exact .inl (claims performed)
  | claimReadyWithBinding => exact .inl (claims performed)
  | claimReadyWithBindingAndCapabilities => exact .inl (claims performed)
  | claimReadyGoverned =>
    obtain ⟨⟨after, claims, changed⟩, claimed, ended⟩ := bind_eq_ok.1 performed
    cases ended
    exact .inl (claimReadyGoverned_batch keyed claimed)
  | heartbeat => exact .inl (heartbeat_batch performed)
  | complete => exact .inl (complete_batch performed)
  | fail => exact .inl (fail_batch performed)
  | cancel => exact .inl (cancel_batch performed)
  | sendMessage =>
    obtain ⟨⟨after, message⟩, sent, ended⟩ := bind_eq_ok.1 performed
    cases ended
    obtain ⟨rfl, sends⟩ := sendMessage_sends sent
    exact .inr ⟨message, sends, id⟩
  | releaseExpired =>
    obtain ⟨⟨after, released⟩, released, ended⟩ := bind_eq_ok.1 performed
    cases ended
    exact .inl (releaseExpired_batch keyed released)

end TaskGraph

end YHarness.Orchestration

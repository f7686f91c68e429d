/-
# YHarness.Orchestration.Integrity -- every reachable graph passes its own check

`validateIntegrity` is what a coordinator runs before it stores a graph and after
it loads one.  `Sane` states its clauses as facts about the graph; every call
keeps them (`Sane.after`), so the check never rejects a graph the domain methods
produced, and the charge maintained by differences is the recomputed one.

The clauses about attempt bindings are the delicate ones: once an attempt of a
Task carries evidence every later attempt does, the evidence of one Task names
each attempt once, and the lease a governed Task runs under is the bound one
(`Governed`).  They hold after every single write of a batch.
-/
import YHarness.Lib.Ledger
import YHarness.Orchestration.Schedule

namespace YHarness.Orchestration

open YHarness.Lib YHarness.Kernel

set_option autoImplicit false

namespace TaskGraph

/-- The definitions, in identity order. -/
def definitions (g : TaskGraph) : List TaskDefinition :=
  (OrdMap.values g.tasks).map (·.definition)

/-! ## The rules of attempt bindings -/

/-- The clauses about attempt bindings. -/
structure Governed (g : TaskGraph) : Prop where
  valid : ∀ evidence ∈ g.attemptBindings, validateAttemptBinding evidence = .ok ()
  within : ∀ evidence ∈ g.attemptBindings, ∃ record, g.tasks[evidence.taskId]? = some record ∧
    evidence.attempt.toNat ≤ record.attempts.toNat
  leases : (g.attemptBindings.map (·.leaseId)).Nodup
  distinct : g.attemptBindings.Pairwise fun earlier later =>
    ¬ (earlier.taskId = later.taskId ∧ earlier.attempt = later.attempt)
  contiguous : ∀ evidence ∈ g.attemptBindings, ∀ record,
    g.tasks[evidence.taskId]? = some record → ∀ attempt, evidence.attempt.toNat ≤ attempt →
      attempt ≤ record.attempts.toNat → attempt ∈ g.boundAttempts evidence.taskId
  current : ∀ evidence ∈ g.attemptBindings, ∀ record lease,
    g.tasks[evidence.taskId]? = some record → record.status = .running lease →
      ∃ held ∈ g.attemptBindings, held.leaseId = lease.id ∧ held.taskId = evidence.taskId ∧
        held.attempt = lease.attempt ∧ held.claimedBy = lease.owner

/-- What an operation may write to a record: it settles or requeues it, extends
its lease, or starts the next attempt. -/
inductive Sound (g : TaskGraph) (mutation : TaskMutation) : Prop
  | settle {record : TaskRecord} (found : g.tasks[mutation.id]? = some record)
      (attempts : mutation.attempts = record.attempts) (unbound : mutation.attemptBinding = none)
      (idle : ∀ lease, mutation.status ≠ .running lease)
      (valid : validateStatus (mutation.recordOf record) = .ok ())
  | extend {record : TaskRecord} {lease : TaskLease} (expiresAtMs : UInt64)
      (found : g.tasks[mutation.id]? = some record) (running : record.status = .running lease)
      (attempts : mutation.attempts = record.attempts) (unbound : mutation.attemptBinding = none)
      (status : mutation.status = .running { lease with expiresAtMs })
  | start {record : TaskRecord} {lease : TaskLease} (starts : g.Starts mutation record lease)

/-- The evidence of an admissible mutation names its Task, its lease and the
attempt it starts, under a lease identity not used before. -/
structure Bound (g : TaskGraph) (mutation : TaskMutation) (evidence : TaskAttemptBinding)
    (lease : TaskLease) : Prop where
  valid : validateAttemptBinding evidence = .ok ()
  status : mutation.status = .running lease
  task : evidence.taskId = mutation.id
  leaseId : evidence.leaseId = lease.id
  attempts : evidence.attempt = mutation.attempts
  attempt : evidence.attempt = lease.attempt
  owner : evidence.claimedBy = lease.owner
  fresh : evidence.leaseId ∉ g.attemptBindings.map (·.leaseId)

variable {g : TaskGraph} {mutation : TaskMutation} {definitions : List TaskDefinition}
  {mutations : List TaskMutation} {evidence : TaskAttemptBinding} {record : TaskRecord}

theorem Admissible.bound (admissible : g.Admissible mutation)
    (carries : mutation.attemptBinding = some evidence) :
    ∃ lease, Bound g mutation evidence lease := by
  have checked := admissible.2 evidence carries
  rw [checkMutationBinding] at checked
  obtain ⟨valid, checked⟩ := seq_eq_ok.1 checked
  split at checked
  · rename_i lease status
    obtain ⟨matched, fresh⟩ := seq_eq_ok.1 checked
    rw [rejectIf_eq_ok] at matched fresh
    simp only [Bool.or_eq_false_iff, bne_eq_false_iff_eq, decide_eq_false_iff_not]
      at matched fresh
    obtain ⟨⟨⟨⟨task, leaseId⟩, attempts⟩, attempt⟩, owner⟩ := matched
    exact ⟨lease, valid, status, task, leaseId, attempts, attempt, owner, fresh⟩
  · cases checked

/-- Only the start of an attempt carries evidence. -/
theorem Sound.start_of_bound (sound : g.Sound mutation)
    (carries : mutation.attemptBinding = some evidence) :
    ∃ record lease, g.Starts mutation record lease := by
  cases sound with
  | settle _ _ unbound => rw [unbound] at carries; cases carries
  | extend _ _ _ _ unbound => rw [unbound] at carries; cases carries
  | start starts => exact ⟨_, _, starts⟩

theorem Sound.found (sound : g.Sound mutation) :
    ∃ record, g.tasks[mutation.id]? = some record ∧
      record.attempts.toNat ≤ mutation.attempts.toNat := by
  cases sound with
  | settle found attempts => exact ⟨_, found, by rw [attempts]⟩
  | extend _ found _ attempts => exact ⟨_, found, by rw [attempts]⟩
  | start starts => exact ⟨_, starts.found, by rw [starts.attempts]; omega⟩

/-- Evidence already recorded stays within the attempt counter. -/
theorem Governed.within_writeMutation (governed : g.Governed) (sound : g.Sound mutation)
    (recorded : evidence ∈ g.attemptBindings) :
    ∃ record, (g.writeMutation mutation).tasks[evidence.taskId]? = some record ∧
      evidence.attempt.toNat ≤ record.attempts.toNat := by
  obtain ⟨record, found, bounded⟩ := governed.within evidence recorded
  by_cases same : mutation.id = evidence.taskId
  · obtain ⟨before, earlier, grows⟩ := sound.found
    rw [← same, earlier, Option.some.injEq] at found
    subst found
    refine ⟨mutation.recordOf before, same ▸ get?_writeMutation_self earlier, ?_⟩
    exact bounded.trans grows
  · exact ⟨record, by rw [get?_writeMutation_of_ne g same]; exact found, bounded⟩

theorem mem_boundAttempts {taskId : TaskId} {attempt : Nat} :
    attempt ∈ g.boundAttempts taskId ↔
      ∃ evidence ∈ g.attemptBindings, evidence.taskId = taskId ∧
        evidence.attempt.toNat = attempt := by
  simp only [boundAttempts, List.mem_map, List.mem_filter, beq_iff_eq]
  constructor
  · rintro ⟨evidence, ⟨recorded, task⟩, rfl⟩
    exact ⟨evidence, recorded, task, rfl⟩
  · rintro ⟨evidence, recorded, task, rfl⟩
    exact ⟨evidence, ⟨recorded, task⟩, rfl⟩

/-- A write without evidence keeps the rules: the attempt counter moves only for
a Task that carries none. -/
theorem Governed.write_unbound (governed : g.Governed) (sound : g.Sound mutation)
    (unbound : mutation.attemptBinding = none) :
    (g.writeMutation mutation).Governed := by
  have same : (g.writeMutation mutation).attemptBindings = g.attemptBindings := by
    rw [writeMutation_attemptBindings, unbound, Option.toList_none, List.append_nil]
  have attempts : ∀ taskId, (g.writeMutation mutation).boundAttempts taskId =
      g.boundAttempts taskId := by
    intro taskId
    rw [boundAttempts, same, boundAttempts]
  refine ⟨?_, ?_, ?_, ?_, ?_, ?_⟩
  · rw [same]; exact governed.valid
  · rw [same]
    intro evidence recorded
    exact governed.within_writeMutation sound recorded
  · rw [same]; exact governed.leases
  · rw [same]; exact governed.distinct
  · rw [same]
    intro evidence recorded record found attempt low high
    rw [attempts]
    rcases get?_writeMutation_cases found with ⟨here, before, earlier, rfl⟩ | ⟨_, earlier⟩
    · cases sound with
      | @settle record' found' counter | @extend record' _ _ found' _ counter =>
        rw [here, found', Option.some.injEq] at earlier
        subst earlier
        exact governed.contiguous evidence recorded record' (here ▸ found') attempt low
          (by simpa [TaskMutation.recordOf, counter] using high)
      | start starts => exact absurd here (starts.governed unbound evidence recorded)
    · exact governed.contiguous evidence recorded record earlier attempt low high
  · rw [same]
    intro evidence recorded record lease found running
    rcases get?_writeMutation_cases found with ⟨here, before, earlier, rfl⟩ | ⟨_, earlier⟩
    · cases sound with
      | settle _ _ _ idle => exact absurd running (idle lease)
      | @extend record' held _ found' running' _ _ status =>
        obtain rfl : { held with expiresAtMs := _ } = lease :=
          TaskStatus.running.inj (status.symm.trans running)
        rw [here] at earlier
        exact governed.current evidence recorded record' held (here ▸ found') running'
      | start starts => exact absurd here (starts.governed unbound evidence recorded)
    · exact governed.current evidence recorded record lease earlier running

/-- A write with evidence keeps the rules: it names the attempt after the
counter, which no earlier evidence does. -/
theorem Governed.write_bound (governed : g.Governed) (sound : g.Sound mutation)
    (carries : mutation.attemptBinding = some evidence) {lease : TaskLease}
    (bound : Bound g mutation evidence lease) : (g.writeMutation mutation).Governed := by
  obtain ⟨record, _, starts⟩ := sound.start_of_bound carries
  have grown : (g.writeMutation mutation).attemptBindings = g.attemptBindings ++ [evidence] := by
    rw [writeMutation_attemptBindings, carries, Option.toList_some]
  have found := get?_writeMutation_self starts.found
  have counter : evidence.attempt.toNat = record.attempts.toNat + 1 := by
    rw [bound.attempts, starts.attempts]
  -- evidence recorded for this Task names attempts up to the old counter
  have below : ∀ earlier ∈ g.attemptBindings, earlier.taskId = mutation.id →
      earlier.attempt.toNat ≤ record.attempts.toNat := by
    intro earlier recorded task
    obtain ⟨record', found', bounded⟩ := governed.within earlier recorded
    rw [task, starts.found, Option.some.injEq] at found'
    rw [found']
    exact bounded
  refine ⟨?_, ?_, ?_, ?_, ?_, ?_⟩
  · intro other recorded
    rw [grown, List.mem_append, List.mem_singleton] at recorded
    rcases recorded with old | rfl
    · exact governed.valid other old
    · exact bound.valid
  · intro other recorded
    rw [grown, List.mem_append, List.mem_singleton] at recorded
    rcases recorded with old | rfl
    · exact governed.within_writeMutation sound old
    · refine ⟨mutation.recordOf record, bound.task ▸ found, ?_⟩
      rw [bound.attempts]
      exact le_refl _
  · rw [grown, List.map_append, List.nodup_append']
    refine ⟨governed.leases, by simp, ?_⟩
    simpa [List.disjoint_left] using bound.fresh
  · rw [grown, List.pairwise_append]
    refine ⟨governed.distinct, by simp, ?_⟩
    rintro earlier recorded later member ⟨task, attempt⟩
    rw [List.mem_singleton] at member
    subst member
    have bounded := below earlier recorded (task.trans bound.task)
    rw [attempt] at bounded
    omega
  · intro other recorded record' found' attempt low high
    rw [mem_boundAttempts, grown]
    by_cases here : other.taskId = mutation.id
    · rw [here, found, Option.some.injEq] at found'
      subst found'
      have limit : attempt ≤ record.attempts.toNat + 1 := by
        rw [← starts.attempts]
        exact high
      by_cases latest : attempt = record.attempts.toNat + 1
      · exact ⟨evidence, by simp, bound.task.trans here.symm, counter.trans latest.symm⟩
      · rw [grown, List.mem_append, List.mem_singleton] at recorded
        rcases recorded with old | rfl
        · obtain ⟨held, member, task, number⟩ := mem_boundAttempts.1 (governed.contiguous other old
            record (here ▸ starts.found) attempt low (by omega))
          exact ⟨held, List.mem_append_left _ member, task, number⟩
        · omega
    · rw [grown, List.mem_append, List.mem_singleton] at recorded
      rcases recorded with old | rfl
      · rw [get?_writeMutation_of_ne g (Ne.symm here)] at found'
        obtain ⟨held, member, task, number⟩ :=
          mem_boundAttempts.1 (governed.contiguous other old record' found' attempt low high)
        exact ⟨held, List.mem_append_left _ member, task, number⟩
      · exact absurd bound.task here
  · intro other recorded record' lease' found' running
    by_cases here : other.taskId = mutation.id
    · rw [here, found, Option.some.injEq] at found'
      subst found'
      obtain rfl : lease = lease' := TaskStatus.running.inj (bound.status.symm.trans running)
      exact ⟨evidence, by rw [grown]; simp, bound.leaseId, bound.task.trans here.symm,
        bound.attempt, bound.owner⟩
    · rw [get?_writeMutation_of_ne g (Ne.symm here)] at found'
      rw [grown, List.mem_append, List.mem_singleton] at recorded
      rcases recorded with old | rfl
      · obtain ⟨held, member, facts⟩ := governed.current other old record' lease' found' running
        exact ⟨held, by rw [grown]; exact List.mem_append_left _ member, facts⟩
      · exact absurd bound.task here

theorem Governed.write (governed : g.Governed) (admissible : g.Admissible mutation)
    (sound : g.Sound mutation) :
    (g.writeMutation mutation).Governed := by
  cases carries : mutation.attemptBinding with
  | none => exact governed.write_unbound sound carries
  | some evidence =>
    obtain ⟨lease, bound⟩ := admissible.bound carries
    exact governed.write_bound sound carries bound

/-! ## The rules of records -/

/-- The clauses about Tasks and their evidence; a single write keeps them. -/
structure Intact (g : TaskGraph) : Prop where
  keyed : g.Keyed
  rebuilt : ∃ built, TaskGraph.new g.definitions = .ok built
  statuses : ∀ (id : TaskId) (record : TaskRecord), g.tasks[id]? = some record →
    validateStatus record = .ok ()
  governed : g.Governed

theorem definitions_writeMutation (g : TaskGraph) (mutation : TaskMutation) :
    (g.writeMutation mutation).definitions = g.definitions := by
  unfold definitions OrdMap.values writeMutation
  dsimp only
  rw [OrdMap.toList_modify]
  simp only [List.map_map]
  apply List.map_congr_left
  intro entry _
  simp only [Function.comp_apply, OrdMap.rewriteEntry]
  split <;> rfl

theorem Sound.validateStatus_recordOf (intact : g.Intact) (sound : g.Sound mutation)
    (found : g.tasks[mutation.id]? = some record) :
    validateStatus (mutation.recordOf record) = .ok () := by
  cases sound with
  | settle found' _ _ _ valid =>
    rw [found', Option.some.injEq] at found
    exact found ▸ valid
  | @extend record' lease expiresAtMs found' running attempts _ status =>
    rw [found', Option.some.injEq] at found
    subst found
    have before := intact.statuses _ _ found'
    rw [validateStatus, running] at before
    rw [validateStatus, TaskMutation.recordOf, status, attempts]
    exact before
  | @start record' lease starts =>
    rw [starts.found, Option.some.injEq] at found
    subst found
    rw [validateStatus, TaskMutation.recordOf, starts.status]
    refine seq_eq_ok.2 ⟨starts.owner, ?_⟩
    rw [rejectIf_eq_ok, Bool.or_eq_false_iff, beq_eq_false_iff_ne, bne_eq_false_iff_eq]
    refine ⟨?_, starts.attempt⟩
    intro zero
    have positive : mutation.attempts.toNat = record'.attempts.toNat + 1 := starts.attempts
    have none_yet : mutation.attempts = 0 := zero
    rw [none_yet] at positive
    cases positive

theorem Intact.write (intact : g.Intact) (admissible : g.Admissible mutation)
    (sound : g.Sound mutation) :
    (g.writeMutation mutation).Intact := by
  refine ⟨?_, ?_, ?_, intact.governed.write admissible sound⟩
  · intro id record found
    rcases get?_writeMutation_cases found with ⟨rfl, before, earlier, rfl⟩ | ⟨_, earlier⟩
    · exact intact.keyed _ before earlier
    · exact intact.keyed id record earlier
  · rw [definitions_writeMutation]
    exact intact.rebuilt
  · intro id record found
    rcases get?_writeMutation_cases found with ⟨rfl, before, earlier, rfl⟩ | ⟨_, earlier⟩
    · exact sound.validateStatus_recordOf intact earlier
    · exact intact.statuses id record earlier

/-- What a mutation may write does not depend on writes to other Tasks. -/
theorem Sound.stays {mutation later : TaskMutation} (admissible : g.Admissible mutation)
    (other : later.id ≠ mutation.id) (sound : g.Sound later) :
    (g.writeMutation mutation).Sound later := by
  have same : (g.writeMutation mutation).tasks[later.id]? = g.tasks[later.id]? :=
    get?_writeMutation_of_ne g (Ne.symm other)
  cases sound with
  | settle found attempts unbound idle valid =>
    exact .settle (same.trans found) attempts unbound idle valid
  | extend expiresAtMs found running attempts unbound status =>
    exact .extend expiresAtMs (same.trans found) running attempts unbound status
  | start starts =>
    refine .start ⟨same.trans starts.found, starts.status, starts.attempts, starts.attempt,
      starts.owner, ?_⟩
    intro unbound evidence recorded
    rw [writeMutation_attemptBindings, List.mem_append, Option.mem_toList] at recorded
    rcases recorded with old | carries
    · exact starts.governed unbound evidence old
    · obtain ⟨lease, bound⟩ := admissible.bound carries
      rw [bound.task]
      exact Ne.symm other

theorem Writes.intact {g next : TaskGraph} (writes : Writes g mutations next) (intact : g.Intact)
    (sound : ∀ mutation ∈ mutations, g.Sound mutation) : next.Intact :=
  writes.keep Intact.write Sound.stays intact sound

/-! ## Every batch is sound -/

theorem insertDefinitions_valid :
    ∀ {tasks built : OrdMap TaskId TaskRecord}, insertDefinitions tasks definitions = .ok built →
      ∀ definition ∈ definitions, validateTaskDefinition definition = .ok () := by
  induction definitions with
  | nil => intro _ _ _ definition member; cases member
  | cons head rest ih =>
    intro tasks built inserted definition member
    rw [insertDefinitions] at inserted
    obtain ⟨valid, inserted⟩ := seq_eq_ok.1 inserted
    replace inserted := rest_ok inserted
    rcases List.mem_cons.1 member with rfl | later
    · exact valid
    · exact ih inserted definition later

/-- Every definition of an intact graph passed its validation. -/
theorem Intact.definition_valid (intact : g.Intact) (known : record ∈ OrdMap.values g.tasks) :
    validateTaskDefinition record.definition = .ok () := by
  obtain ⟨built, rebuilt⟩ := intact.rebuilt
  rw [TaskGraph.new] at rebuilt
  replace rebuilt := rest_ok rebuilt
  obtain ⟨tasks, inserted, _⟩ := bind_eq_ok.1 rebuilt
  exact insertDefinitions_valid inserted _ (List.mem_map_of_mem known)

/-- The text that explains a block is a valid terminal reason: a dependency is at
most 256 bytes. -/
theorem blockReason_valid {dependency : TaskId} (valid : validateTaskId dependency = .ok ()) :
    validateTaskText "Task terminal reason" s!"dependency {dependency} did not complete" =
      .ok () := by
  rw [validateTaskId, rejectIf_eq_ok] at valid
  simp only [Bool.or_eq_false_iff, decide_eq_false_iff_not, not_lt] at valid
  rw [validateTaskText, rejectIf_eq_ok, Bool.or_eq_false_iff, decide_eq_false_iff_not, not_lt]
  have short := valid.1.2
  constructor
  · rw [isBlank, List.all_eq_false]
    refine ⟨'d', ?_, by decide⟩
    simp [toString]
  · have before : "dependency ".utf8ByteSize = 11 := by decide
    have after : " did not complete".utf8ByteSize = 17 := by decide
    simp only [toString, String.utf8ByteSize_append, before, after, maxTaskTextBytes]
    omega

theorem Intact.blocked_sound (intact : g.Intact) {pendingOverrides : List TaskId}
    {additionalFailed : Option TaskId}
    (member : mutation ∈ g.blockedMutations pendingOverrides additionalFailed) :
    g.Sound mutation := by
  obtain ⟨record, known, _, _, dependency, depends, _, rfl⟩ :=
    (blockedMutations_blocks g pendingOverrides additionalFailed).each mutation member
  have valid := intact.definition_valid known
  rw [validateTaskDefinition] at valid
  iterate 3 replace valid := rest_ok valid
  obtain ⟨named, _⟩ := seq_eq_ok.1 valid
  refine .settle (intact.keyed.mem_values.1 known) rfl rfl (fun lease => nofun) ?_
  exact blockReason_valid (checkAll_eq_ok.1 named dependency depends)

theorem Released.sound (released : g.Released mutation) :
    g.Sound mutation := by
  obtain ⟨record, lease, found, _, shape⟩ := released
  rw [shape]
  exact .settle found rfl rfl (fun lease => nofun) rfl

theorem Intact.batch_sound (intact : g.Intact) (batch : Batch g mutations) :
    ∀ mutation ∈ mutations, g.Sound mutation := by
  intro mutation member
  cases batch with
  | heartbeat expiresAtMs found running =>
    rw [List.mem_singleton] at member
    subst member
    exact .extend expiresAtMs found running rfl rfl rfl
  | @complete id record lease completion found running valid =>
    rw [List.mem_singleton] at member
    subst member
    refine .settle found rfl rfl (fun lease => nofun) ?_
    show validateCompletion record.definition.id completion = .ok ()
    rw [intact.keyed id record found]
    exact valid
  | stop found live stopped text =>
    rcases List.mem_cons.1 member with rfl | blocked
    · rcases stopped with rfl | rfl
      · exact .settle found rfl rfl (fun lease => nofun) text
      · exact .settle found rfl rfl (fun lease => nofun) text
    · exact intact.blocked_sound blocked
  | release each => exact (each mutation member).sound
  | claim requeued releases claims =>
    rcases List.mem_append.1 member with earlier | claimed
    · rcases List.mem_append.1 earlier with blocked | released
      · exact intact.blocked_sound blocked
      · exact (releases mutation released).1.sound
    · obtain ⟨record, lease, claimed⟩ := claims mutation claimed
      exact .start claimed.toStarts

/-! ## Messages -/

/-- The clauses about messages. -/
structure Posted (g : TaskGraph) : Prop where
  room : g.messages.length ≤ maxMessages
  next : g.nextMessageSequence.toNat = g.messages.length + 1
  sequence : ∀ index message, g.messages[index]? = some message →
    message.sequence.toNat = index + 1
  distinct : (g.messages.map (·.id)).Nodup
  known : ∀ message ∈ g.messages, g.tasks.contains message.sender = true ∧
    g.tasks.contains message.receiver = true
  bodies : ∀ message ∈ g.messages, checkMessageBody message.body = .ok ()

/-- No write adds or removes a Task. -/
theorem contains_writes {g next : TaskGraph} (writes : Writes g mutations next) {id : TaskId}
    (known : g.tasks.contains id = true) :
    next.tasks.contains id = true := by
  rw [OrdMap.contains_iff] at known ⊢
  by_cases named : ∃ mutation ∈ mutations, mutation.id = id
  · obtain ⟨mutation, member, rfl⟩ := named
    obtain ⟨before, _, after⟩ := writes.get?_of_named member
    exact ⟨_, after⟩
  · push Not at named
    rw [writes.get?_of_unnamed named]
    exact known

theorem Posted.writes {g next : TaskGraph} (posted : g.Posted) (writes : Writes g mutations next) :
    next.Posted := by
  obtain ⟨messages, sequence⟩ := writes.messages
  refine ⟨?_, ?_, ?_, ?_, ?_, ?_⟩
  · rw [messages]; exact posted.room
  · rw [messages, sequence]; exact posted.next
  · rw [messages]; exact posted.sequence
  · rw [messages]; exact posted.distinct
  · rw [messages]
    intro message member
    obtain ⟨sender, receiver⟩ := posted.known message member
    exact ⟨contains_writes writes sender, contains_writes writes receiver⟩
  · rw [messages]; exact posted.bodies

theorem Posted.sends {g next : TaskGraph} {message : TaskMessage} (posted : g.Posted)
    (sends : Sends g message next) (fresh : message.id ∉ g.messages.map (·.id)) :
    next.Posted := by
  obtain rfl := sends.after
  refine ⟨?_, ?_, ?_, ?_, ?_, ?_⟩
  · have := sends.room
    simp only [List.length_append, List.length_singleton]
    omega
  · have advanced : (g.nextMessageSequence + 1).toNat = g.nextMessageSequence.toNat + 1 := by
      rw [UInt64.toNat_add]
      exact Nat.mod_eq_of_lt sends.within
    simp only [List.length_append, List.length_singleton, advanced, posted.next]
  · intro index other found
    rcases Nat.lt_or_ge index g.messages.length with old | new
    · rw [List.getElem?_append_left old] at found
      exact posted.sequence index other found
    · rw [List.getElem?_append_right new, List.getElem?_singleton] at found
      split at found
      · cases found
        rw [sends.sequence, posted.next]
        omega
      · cases found
  · rw [List.map_append, List.nodup_append']
    refine ⟨posted.distinct, by simp, ?_⟩
    simpa [List.disjoint_left] using fresh
  · intro other member
    rcases List.mem_append.1 member with old | new
    · exact posted.known other old
    · rw [List.mem_singleton] at new
      subst new
      exact ⟨sends.sender, sends.receiver⟩
  · intro other member
    rcases List.mem_append.1 member with old | new
    · exact posted.bodies other old
    · rw [List.mem_singleton] at new
      subst new
      exact sends.body

/-! ## The invariant -/

/-- What `validateIntegrity` checks of the Tasks, the bindings and the charge: it
holds whatever identities the messages get. -/
structure Kept (g : TaskGraph) : Prop where
  intact : g.Intact
  charged : g.materializationChargeBytes = g.totalCharge
  fits : g.totalCharge ≤ maxTaskGraphJsonBytes
  evidence : g.attemptBindings.length ≤ maxTaskAttemptBindings

/-- Everything `validateIntegrity` checks. -/
structure Sane (g : TaskGraph) : Prop extends Kept g where
  posted : g.Posted

/-- The clauses do not read the stored charge. -/
theorem Intact.recharge (intact : g.Intact) (charge : Nat) :
    { g with materializationChargeBytes := charge }.Intact :=
  ⟨intact.keyed, intact.rebuilt, intact.statuses, ⟨intact.governed.valid, intact.governed.within,
    intact.governed.leases, intact.governed.distinct, intact.governed.contiguous,
    intact.governed.current⟩⟩

theorem Posted.recharge (posted : g.Posted) (charge : Nat) :
    { g with materializationChargeBytes := charge }.Posted :=
  ⟨posted.room, posted.next, posted.sequence, posted.distinct, posted.known, posted.bodies⟩

theorem Kept.applies {g next : TaskGraph} (kept : g.Kept) (batch : Batch g mutations)
    (applied : g.applyTaskMutations mutations = .ok next) :
    next.Kept := by
  obtain ⟨written, writes, rfl, fits, evidence⟩ := applyTaskMutations_eq_ok kept.charged applied
  exact ⟨(writes.intact kept.intact (kept.intact.batch_sound batch)).recharge _, rfl, fits,
    evidence⟩

theorem Kept.sends {g next : TaskGraph} (kept : g.Kept) {message : TaskMessage}
    (sends : Sends g message next) : next.Kept := by
  obtain rfl := sends.after
  have total : ∀ (sequence : UInt64) (charge : Nat), TaskGraph.totalCharge { g with
      nextMessageSequence := sequence
      messages := g.messages ++ [message]
      materializationChargeBytes := charge } = g.totalCharge + messageCharge message := by
    intro sequence charge
    simp only [totalCharge, List.map_append, List.sum_append, List.map_cons, List.map_nil,
      List.sum_cons, List.sum_nil]
    omega
  refine ⟨⟨kept.intact.keyed, kept.intact.rebuilt, kept.intact.statuses,
    ⟨kept.intact.governed.valid, kept.intact.governed.within, kept.intact.governed.leases,
      kept.intact.governed.distinct, kept.intact.governed.contiguous,
      kept.intact.governed.current⟩⟩, ?_, ?_, kept.evidence⟩
  · rw [total, kept.charged]
  · rw [total, ← kept.charged]
    exact sends.fits

/-- **One call.**  Successful or not, a call keeps the Tasks in order. -/
theorem Kept.after (kept : g.Kept) (call : DomainCall) :
    (g.after call).Kept := by
  unfold TaskGraph.after
  split
  · rename_i next performed
    rcases perform_cases kept.intact.keyed performed with ⟨mutations, batch, applied⟩ |
      ⟨message, sends, _⟩
    · exact kept.applies batch applied
    · exact kept.sends sends
  · exact kept

/-- With a fresh identity for a message, also the messages. -/
theorem Sane.after (sane : g.Sane) {call : DomainCall} (fresh : g.Fresh call) :
    (g.after call).Sane := by
  refine ⟨sane.toKept.after call, ?_⟩
  unfold TaskGraph.after
  split
  · rename_i next performed
    rcases perform_cases sane.intact.keyed performed with ⟨mutations, batch, applied⟩ |
      ⟨message, sends, new⟩
    · obtain ⟨written, writes, rfl, _, _⟩ := applyTaskMutations_eq_ok sane.charged applied
      exact (sane.posted.writes writes).recharge _
    · exact sane.posted.sends sends (new fresh)
  · exact sane.posted

/-! ## Construction -/

/-- The Tasks built from definitions: each one Pending under its identity. -/
theorem insertDefinitions_get? :
    ∀ {tasks built : OrdMap TaskId TaskRecord}, insertDefinitions tasks definitions = .ok built →
      (∀ definition ∈ definitions, built[definition.id]? = some ⟨definition, .pending, 0⟩) ∧
      (∀ id : TaskId, (∀ definition ∈ definitions, definition.id ≠ id) →
        built[id]? = tasks[id]?) ∧
      (definitions.map (·.id)).Nodup ∧
      ∀ definition ∈ definitions, tasks.contains definition.id = false := by
  induction definitions with
  | nil =>
    intro tasks built inserted
    rw [insertDefinitions, ok_eq_ok] at inserted
    subst inserted
    simp
  | cons head rest ih =>
    intro tasks built inserted
    rw [insertDefinitions] at inserted
    replace inserted := rest_ok inserted
    obtain ⟨absent, inserted⟩ := seq_eq_ok.1 inserted
    rw [rejectIf_eq_ok] at absent
    obtain ⟨each, others, distinct, unknown⟩ := ih inserted
    have fresh : ∀ definition ∈ rest, definition.id ≠ head.id := by
      intro definition member same
      have unseen := unknown definition member
      rw [same, Std.ExtTreeMap.contains_insert_self] at unseen
      cases unseen
    refine ⟨?_, ?_, ?_, ?_⟩
    · intro definition member
      rcases List.mem_cons.1 member with rfl | later
      · rw [others _ fresh, OrdMap.get?_insert_self]
      · exact each definition later
    · intro id unnamed
      rw [others id fun definition member => unnamed definition (List.mem_cons_of_mem _ member),
        OrdMap.get?_insert_of_ne _ _ (unnamed head List.mem_cons_self)]
    · rw [List.map_cons, List.nodup_cons]
      refine ⟨?_, distinct⟩
      intro member
      obtain ⟨definition, later, same⟩ := List.mem_map.1 member
      exact fresh definition later same
    · intro definition member
      rcases List.mem_cons.1 member with rfl | later
      · exact absent
      · have unseen := unknown definition later
        rw [Std.ExtTreeMap.contains_insert, Bool.or_eq_false_iff] at unseen
        exact unseen.2

/-- Definitions with distinct new identities that pass their validation are
inserted. -/
theorem insertDefinitions_ok :
    ∀ (tasks : OrdMap TaskId TaskRecord),
      (∀ definition ∈ definitions, validateTaskDefinition definition = .ok ()) →
      (definitions.map (·.id)).Nodup →
      (∀ definition ∈ definitions, tasks.contains definition.id = false) →
      ∃ built, insertDefinitions tasks definitions = .ok built := by
  induction definitions with
  | nil => intro tasks _ _ _; exact ⟨tasks, rfl⟩
  | cons head rest ih =>
    intro tasks valid distinct unknown
    rw [List.map_cons, List.nodup_cons] at distinct
    obtain ⟨built, inserted⟩ := ih (tasks.insert head.id ⟨head, .pending, 0⟩)
      (fun definition member => valid definition (List.mem_cons_of_mem _ member)) distinct.2
      (by
        intro definition member
        rw [Std.ExtTreeMap.contains_insert, Bool.or_eq_false_iff]
        refine ⟨?_, unknown definition (List.mem_cons_of_mem _ member)⟩
        rw [beq_eq_false_iff_ne]
        intro equal
        have same : head.id = definition.id := Std.LawfulEqCmp.eq_of_compare equal
        exact distinct.1 (List.mem_map.2 ⟨definition, member, same.symm⟩))
    refine ⟨built, ?_⟩
    rw [insertDefinitions, valid head List.mem_cons_self, unknown head List.mem_cons_self]
    exact inserted

theorem insertDefinitions_size :
    ∀ {tasks built : OrdMap TaskId TaskRecord}, insertDefinitions tasks definitions = .ok built →
      built.size = tasks.size + definitions.length := by
  induction definitions with
  | nil =>
    intro tasks built inserted
    rw [insertDefinitions, ok_eq_ok] at inserted
    rw [inserted, List.length_nil, Nat.add_zero]
  | cons head rest ih =>
    intro tasks built inserted
    rw [insertDefinitions] at inserted
    replace inserted := rest_ok inserted
    obtain ⟨absent, inserted⟩ := seq_eq_ok.1 inserted
    rw [rejectIf_eq_ok] at absent
    rw [ih inserted, Std.ExtTreeMap.size_insert, if_neg (by
      rw [absent]
      exact Bool.false_ne_true), List.length_cons]
    omega

/-- The construction, opened once. -/
theorem new_eq_ok :
    TaskGraph.new definitions = .ok g ↔
      definitions.length ≤ maxTasks ∧ ∃ tasks, insertDefinitions ∅ definitions = .ok tasks ∧
        checkAll (checkDependencies tasks) (OrdMap.values tasks) = .ok () ∧
        validateAcyclic tasks = .ok () ∧
        totalCharge ⟨tasks, [], [], 1, 0⟩ ≤ maxTaskGraphJsonBytes ∧
        g = ⟨tasks, [], [], 1, totalCharge ⟨tasks, [], [], 1, 0⟩⟩ := by
  rw [TaskGraph.new, seq_eq_ok, rejectIf_decide, not_lt, bind_eq_ok]
  refine and_congr_right fun _ => exists_congr fun tasks => and_congr_right fun _ => ?_
  rw [seq_eq_ok, seq_eq_ok, bind_eq_ok]
  refine and_congr_right fun _ => and_congr_right fun _ => ?_
  constructor
  · rintro ⟨charge, computed, ended⟩
    obtain ⟨fits, rfl⟩ := calculateMaterializationCharge_eq_ok.1 computed
    exact ⟨fits, ok_eq_ok.1 ended⟩
  · rintro ⟨fits, rfl⟩
    exact ⟨_, calculateMaterializationCharge_eq_ok.2 ⟨fits, rfl⟩, rfl⟩

/-- The records of a construction. -/
theorem get?_of_inserted {tasks : OrdMap TaskId TaskRecord}
    (inserted : insertDefinitions ∅ definitions = .ok tasks) {id : TaskId} :
    tasks[id]? = some record ↔
      ∃ definition ∈ definitions, definition.id = id ∧ record = ⟨definition, .pending, 0⟩ := by
  obtain ⟨each, others, _, _⟩ := insertDefinitions_get? inserted
  constructor
  · intro found
    by_cases named : ∃ definition ∈ definitions, definition.id = id
    · obtain ⟨definition, member, rfl⟩ := named
      rw [each definition member, Option.some.injEq] at found
      exact ⟨definition, member, rfl, found.symm⟩
    · push Not at named
      rw [others id named] at found
      cases found
  · rintro ⟨definition, member, rfl, rfl⟩
    exact each definition member

/-- **Rebuilding.**  Building a graph again from its own definitions gives the
graph. -/
theorem new_definitions (built : TaskGraph.new definitions = .ok g) :
    TaskGraph.new g.definitions = .ok g := by
  obtain ⟨short, tasks, inserted, dependencies, acyclic, fits, rfl⟩ := new_eq_ok.1 built
  -- the definitions read back from the map are the given ones, in another order
  have same : ∀ definition, definition ∈ TaskGraph.definitions ⟨tasks, [], [], 1,
      totalCharge ⟨tasks, [], [], 1, 0⟩⟩ ↔ definition ∈ definitions := by
    intro definition
    simp only [TaskGraph.definitions, List.mem_map, OrdMap.mem_values]
    constructor
    · rintro ⟨record, ⟨id, found⟩, rfl⟩
      obtain ⟨definition, member, _, rfl⟩ := (get?_of_inserted inserted).1 found
      exact member
    · intro member
      exact ⟨⟨definition, .pending, 0⟩, ⟨definition.id,
        (get?_of_inserted inserted).2 ⟨definition, member, rfl, rfl⟩⟩, rfl⟩
  have distinct : ((TaskGraph.definitions ⟨tasks, [], [], 1,
      totalCharge ⟨tasks, [], [], 1, 0⟩⟩).map (·.id)).Nodup := by
    have keys : (TaskGraph.definitions ⟨tasks, [], [], 1,
        totalCharge ⟨tasks, [], [], 1, 0⟩⟩).map (·.id) = tasks.toList.map (·.1) := by
      rw [TaskGraph.definitions, OrdMap.values, List.map_map, List.map_map]
      apply List.map_congr_left
      rintro ⟨id, record⟩ member
      rw [Std.ExtTreeMap.mem_toList_iff_getElem?_eq_some] at member
      obtain ⟨definition, _, key, rfl⟩ := (get?_of_inserted inserted).1 member
      exact key
    rw [keys]
    exact OrdMap.nodup_keys tasks
  obtain ⟨again, reinserted⟩ := insertDefinitions_ok ∅
    (fun definition member => insertDefinitions_valid inserted definition ((same _).1 member))
    distinct (by simp)
  have equal : again = tasks := by
    apply Std.ExtTreeMap.ext_getElem?
    intro id
    apply Option.ext
    intro record
    rw [get?_of_inserted reinserted, get?_of_inserted inserted]
    simp only [same]
  subst equal
  refine new_eq_ok.2 ⟨?_, again, reinserted, dependencies, acyclic, fits, rfl⟩
  have size := insertDefinitions_size inserted
  rw [Std.ExtTreeMap.size_empty, Nat.zero_add] at size
  rw [TaskGraph.definitions, List.length_map, OrdMap.length_values, size]
  exact short

theorem new_sane (built : TaskGraph.new definitions = .ok g) : g.Sane := by
  have rebuilt := new_definitions built
  obtain ⟨_, tasks, inserted, _, _, fits, rfl⟩ := new_eq_ok.1 built
  refine ⟨⟨⟨?_, ⟨_, rebuilt⟩, ?_, ⟨?_, ?_, ?_, ?_, ?_, ?_⟩⟩, rfl, fits, ?_⟩, ⟨?_, ?_, ?_, ?_, ?_, ?_⟩⟩
  · intro id record found
    obtain ⟨definition, _, key, rfl⟩ := (get?_of_inserted inserted).1 found
    exact key
  · intro id record found
    obtain ⟨definition, _, _, rfl⟩ := (get?_of_inserted inserted).1 found
    rfl
  all_goals simp

/-- **The invariant of every reachable graph.** -/
theorem Reachable.kept {assumed : TaskGraph → DomainCall → Prop} (reached : Reachable assumed g) :
    g.Kept := by
  induction reached with
  | new built => exact (new_sane built).toKept
  | call _ call _ ih => exact ih.after call

theorem Reachable.sane (reached : Reachable Fresh g) : g.Sane := by
  induction reached with
  | new built => exact new_sane built
  | call _ call fresh ih => exact ih.after fresh

/-! ## The check accepts -/

theorem validateBindings_ok (governed : g.Governed) :
    ∀ (rest seen : List TaskAttemptBinding), (∀ evidence ∈ rest, evidence ∈ g.attemptBindings) →
      rest.Pairwise (fun earlier later => earlier.leaseId ≠ later.leaseId ∧
        ¬ (earlier.taskId = later.taskId ∧ earlier.attempt = later.attempt)) →
      (∀ earlier ∈ seen, ∀ later ∈ rest, earlier.leaseId ≠ later.leaseId ∧
        ¬ (earlier.taskId = later.taskId ∧ earlier.attempt = later.attempt)) →
      g.validateBindings seen rest = .ok () := by
  intro rest
  induction rest with
  | nil => intro seen _ _ _; rfl
  | cons evidence rest ih =>
    intro seen recorded distinct apart
    obtain ⟨head, tail⟩ := List.pairwise_cons.1 distinct
    have here := recorded evidence List.mem_cons_self
    have valid := governed.valid evidence here
    obtain ⟨record, found, within⟩ := governed.within evidence here
    have positive : (evidence.attempt == 0) = false := by
      rw [validateAttemptBinding] at valid
      replace valid := rest_ok (rest_ok valid)
      exact rejectIf_eq_ok.1 (seq_eq_ok.1 valid).1
    rw [validateBindings, valid, ok_bind, found]
    refine seq_eq_ok.2 ⟨?_, seq_eq_ok.2 ⟨?_, ih (evidence :: seen) ?_ tail ?_⟩⟩
    · rw [rejectIf_eq_ok, positive, Bool.false_or, decide_eq_false_iff_not]
      exact UInt32.not_lt.2 (UInt32.le_iff_toNat_le.2 within)
    · rw [rejectIf_eq_ok, List.any_eq_false]
      intro earlier member
      have separate := apart earlier member evidence List.mem_cons_self
      simpa using separate
    · exact fun other member => recorded other (List.mem_cons_of_mem _ member)
    · intro earlier member later after
      rcases List.mem_cons.1 member with rfl | old
      · exact head later after
      · exact apart earlier old later (List.mem_cons_of_mem _ after)

theorem validateGoverned_ok (governed : g.Governed)
    (found : g.tasks[record.definition.id]? = some record) :
    g.validateGoverned record = .ok () := by
  rw [validateGoverned]
  split
  · rfl
  · rename_i first least
    obtain ⟨evidence, recorded, task, number⟩ := mem_boundAttempts.1 (List.min?_mem least)
    have here : g.tasks[evidence.taskId]? = some record := task ▸ found
    refine seq_eq_ok.2 ⟨?_, ?_⟩
    · rw [rejectIf_eq_ok, List.any_eq_false]
      intro attempt ranged
      rw [List.mem_range'_1] at ranged
      have bound := governed.contiguous evidence recorded record here attempt (by omega) (by omega)
      simpa [task] using bound
    · split
      · rename_i lease running
        obtain ⟨held, member, leaseId, owner, attempt, worker⟩ :=
          governed.current evidence recorded record lease here running
        -- lease identities are distinct, so the lookup returns this evidence
        have lookup : g.attemptBindings.find? (fun evidence => evidence.leaseId == lease.id) =
            some held :=
          (find?_key_eq_some governed.leases).2 ⟨member, leaseId⟩
        rw [lookup]
        refine (rejectIf_eq_ok).2 ?_
        simp only [Bool.or_eq_false_iff, bne_eq_false_iff_eq]
        exact ⟨⟨owner.trans task, attempt⟩, worker⟩
      · rfl

theorem validateMessages_ok :
    ∀ (rest : List TaskMessage) (index : Nat) (messageIds : List TaskMessageId),
      index + rest.length ≤ maxMessages →
      (∀ offset message, rest[offset]? = some message →
        message.sequence.toNat = index + offset + 1) →
      (rest.map (·.id)).Nodup → (∀ message ∈ rest, message.id ∉ messageIds) →
      (∀ message ∈ rest, g.tasks.contains message.sender = true ∧
        g.tasks.contains message.receiver = true) →
      (∀ message ∈ rest, checkMessageBody message.body = .ok ()) →
      g.validateMessages index messageIds rest = .ok () := by
  intro rest
  induction rest with
  | nil => intros; rfl
  | cons message rest ih =>
    intro index messageIds room sequence distinct fresh known bodies
    rw [List.map_cons, List.nodup_cons] at distinct
    obtain ⟨sender, receiver⟩ := known message List.mem_cons_self
    have limit : maxMessages < UInt64.size := by decide
    rw [List.length_cons] at room
    rw [validateMessages]
    refine seq_eq_ok.2 ⟨?_, seq_eq_ok.2 ⟨?_, seq_eq_ok.2 ⟨?_, seq_eq_ok.2 ⟨?_, seq_eq_ok.2
      ⟨bodies message List.mem_cons_self, ih (index + 1) (message.id :: messageIds) (by omega)
        ?_ distinct.2 ?_ ?_ ?_⟩⟩⟩⟩⟩
    · rw [rejectIf_decide]
      omega
    · rw [rejectIf_bne]
      exact sequence 0 message rfl
    · rw [rejectIf_decide]
      exact fresh message List.mem_cons_self
    · rw [rejectIf_eq_ok, sender, receiver]
      rfl
    · intro offset other found
      have number := sequence (offset + 1) other (by simpa using found)
      omega
    · intro other member here
      rcases List.mem_cons.1 here with same | old
      · exact distinct.1 (List.mem_map.2 ⟨other, member, same⟩)
      · exact fresh other (List.mem_cons_of_mem _ member) old
    · exact fun other member => known other (List.mem_cons_of_mem _ member)
    · exact fun other member => bodies other (List.mem_cons_of_mem _ member)

theorem Sane.calculated (sane : g.Sane) :
    g.calculateMaterializationCharge = .ok g.materializationChargeBytes :=
  calculateMaterializationCharge_eq_ok.2 ⟨sane.fits, sane.charged⟩

theorem Sane.validateIntegrity (sane : g.Sane) :
    g.validateIntegrity = .ok () := by
  obtain ⟨built, rebuilt⟩ := sane.intact.rebuilt
  have short : g.tasks.size ≤ maxTasks := by
    have length := (new_eq_ok.1 rebuilt).1
    rw [TaskGraph.definitions, List.length_map, OrdMap.length_values] at length
    exact length
  have few : g.messages.length + 1 < UInt64.size := by
    have limit : maxMessages + 1 < UInt64.size := by decide
    have := sane.posted.room
    omega
  have record_found : ∀ record ∈ OrdMap.values g.tasks,
      g.tasks[record.definition.id]? = some record :=
    fun record known => sane.intact.keyed.mem_values.1 known
  rw [TaskGraph.validateIntegrity]
  refine seq_eq_ok.2 ⟨?_, seq_eq_ok.2 ⟨?_, bind_eq_ok.2 ⟨built, rebuilt, seq_eq_ok.2 ⟨?_,
    seq_eq_ok.2 ⟨?_, seq_eq_ok.2 ⟨?_, seq_eq_ok.2 ⟨?_, seq_eq_ok.2 ⟨?_, seq_eq_ok.2 ⟨?_,
      seq_eq_ok.2 ⟨?_, seq_eq_ok.2 ⟨?_, bind_eq_ok.2 ⟨_, sane.calculated, ?_⟩⟩⟩⟩⟩⟩⟩⟩⟩⟩⟩⟩
  · rw [rejectIf_decide, not_lt]
    exact short
  · rw [checkAll_eq_ok]
    rintro ⟨id, record⟩ member
    rw [rejectIf_bne]
    rw [Std.ExtTreeMap.mem_toList_iff_getElem?_eq_some] at member
    exact (sane.intact.keyed id record member).symm
  · rw [checkAll_eq_ok]
    intro record known
    exact sane.intact.statuses _ record (record_found record known)
  · rw [rejectIf_decide, not_lt]
    exact sane.evidence
  · apply validateBindings_ok sane.intact.governed
    · exact fun _ member => member
    · have leases : g.attemptBindings.Pairwise fun earlier later =>
          earlier.leaseId ≠ later.leaseId := List.pairwise_map.1 sane.intact.governed.leases
      exact leases.and sane.intact.governed.distinct
    · intro earlier member
      cases member
  · rw [checkAll_eq_ok]
    intro record known
    exact validateGoverned_ok sane.intact.governed (record_found record known)
  · rw [rejectIf_decide, not_lt]
    exact sane.posted.room
  · apply validateMessages_ok
    · rw [Nat.zero_add]
      exact sane.posted.room
    · intro offset message found
      rw [sane.posted.sequence offset message found]
      omega
    · exact sane.posted.distinct
    · intro message _ member
      cases member
    · exact sane.posted.known
    · exact sane.posted.bodies
  · rw [rejectIf_decide]
    omega
  · rw [rejectIf_bne]
    exact sane.posted.next
  · rw [rejectIf_eq_ok, bne_self_eq_false]

/-- A graph that passes its integrity check is keyed. -/
theorem keyed_of_valid (valid : g.validateIntegrity = .ok ()) : g.Keyed := by
  replace valid := rest_ok valid
  obtain ⟨keys, _⟩ := seq_eq_ok.1 valid
  rw [checkAll_eq_ok] at keys
  intro id record found
  have named := keys (id, record) (OrdMap.mem_toList.2 found)
  rw [rejectIf_bne] at named
  exact named.symm

/-- The wire form of a graph whose charge is right is read back as the graph. -/
theorem deserialize_of_charged
    (charged : g.calculateMaterializationCharge = .ok g.materializationChargeBytes) :
    deserialize g.toWire = .ok g := by
  obtain ⟨fits, same⟩ := calculateMaterializationCharge_eq_ok.1 charged
  have total : totalCharge ⟨g.tasks, g.messages, g.attemptBindings, g.nextMessageSequence, 0⟩ =
      g.totalCharge := rfl
  have computed : calculateMaterializationCharge
      ⟨g.tasks, g.messages, g.attemptBindings, g.nextMessageSequence, 0⟩ =
        .ok g.materializationChargeBytes :=
    calculateMaterializationCharge_eq_ok.2 ⟨total ▸ fits, same⟩
  exact bind_eq_ok.2 ⟨_, computed, rfl⟩

/-- A graph that passes its integrity check is read back from its wire form. -/
theorem deserialize_toWire (valid : g.validateIntegrity = .ok ()) :
    deserialize g.toWire = .ok g := by
  replace valid := rest_ok (rest_ok valid)
  obtain ⟨_, _, valid⟩ := bind_eq_ok.1 valid
  iterate 8 replace valid := rest_ok valid
  obtain ⟨charge, computed, valid⟩ := bind_eq_ok.1 valid
  rw [rejectIf_bne] at valid
  rw [valid] at computed
  exact deserialize_of_charged computed

/-- **Integrity of every reachable graph.**  After any calls, successful or
failing, a graph passes its integrity check, its charge is the recomputed one,
and its wire form is read back as the graph itself. -/
theorem reachable_integrity {g : TaskGraph} (reached : Reachable Fresh g) :
    g.validateIntegrity = .ok () ∧
      g.calculateMaterializationCharge = .ok g.materializationChargeBytes ∧
      deserialize g.toWire = .ok g := by
  have sane := reached.sane
  exact ⟨sane.validateIntegrity, sane.calculated, deserialize_of_charged sane.calculated⟩

/-- A Task and one that depends on it. -/
def sampleDefinitions : List TaskDefinition :=
  [⟨"test", "run the tests", Std.ExtTreeSet.ofList ["build"], 0, .isolated, ∅⟩,
    ⟨"build", "build the crate", ∅, 1, .isolated, ∅⟩]

/-- The graph of definitions that are accepted. -/
def graphOf (definitions : List TaskDefinition) : TaskGraph :=
  (new definitions).toOption.getD ⟨∅, [], [], 1, 0⟩

theorem graphOf_built {definitions : List TaskDefinition}
    (accepted : (new definitions).toOption.isSome = true) :
    new definitions = .ok (graphOf definitions) := by
  unfold graphOf
  cases built : new definitions with
  | error e =>
    rw [built] at accepted
    cases accepted
  | ok g => rfl

def sampleGraph : TaskGraph :=
  graphOf sampleDefinitions

theorem sampleGraph_built : new sampleDefinitions = .ok sampleGraph :=
  graphOf_built (by decide +kernel)

/-- The first Task is claimed, sends its dependent a message and fails. -/
def sampleClaimed : TaskGraph :=
  sampleGraph.after (.claimReady (fun _ => "lease-1") "worker-1" 10 100 2)

def sampleFailed : TaskGraph :=
  (sampleClaimed.after (.sendMessage "message-1" "build" "test" "started" 11)).after
    (.fail "build" "lease-1" 20 "no compiler")

theorem sampleFailed_reachable : Reachable Fresh sampleFailed := by
  have fresh : "message-1" ∉ sampleClaimed.messages.map (·.id) := by decide +kernel
  have claimed : Reachable Fresh sampleClaimed :=
    .call (.new sampleGraph_built) (.claimReady (fun _ => "lease-1") "worker-1" 10 100 2) trivial
  have sent : Reachable Fresh
      (sampleClaimed.after (.sendMessage "message-1" "build" "test" "started" 11)) :=
    .call claimed (.sendMessage "message-1" "build" "test" "started" 11) fresh
  exact .call sent (.fail "build" "lease-1" 20 "no compiler") trivial

theorem reachable_integrity_failed :
    (sampleFailed.tasks.toList.map fun entry => entry.2.status) =
        [.failed "no compiler", .blocked "dependency build did not complete"] ∧
      sampleFailed.messages.length = 1 ∧ sampleFailed.validateIntegrity = .ok () := by
  refine ⟨by decide +kernel, by decide +kernel, ?_⟩
  exact (reachable_integrity sampleFailed_reachable).1

end TaskGraph

end YHarness.Orchestration

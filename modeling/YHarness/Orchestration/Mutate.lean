/-
# YHarness.Orchestration.Mutate -- what a batch of Task mutations does

`applyTaskMutations` checks a batch and then writes it.  `Writes` is the same
batch as a sequence of single writes, each admissible in the graph the earlier
ones left; `applyTaskMutations_eq_ok` connects the two.  A property of graphs
that every admissible write keeps is kept by every batch (`Writes.keep`), and
`Writes.lookup` says what each record is afterwards.

The charge is maintained by differences.  `totalCharge` is what recomputing it
adds up, and every write moves both by the same amount (`charge_writeMutation`).
-/
import YHarness.Orchestration.Graph

namespace YHarness.Orchestration

open YHarness.Lib YHarness.Kernel

set_option autoImplicit false

/-! ## Charges as sums -/

def taskCharge (entry : TaskId × TaskRecord) : Nat :=
  (taskRecordJson entry.1 entry.2.definition entry.2.status entry.2.attempts).encodedLen +
    terminalReserve entry.2.status

def messageCharge (message : TaskMessage) : Nat :=
  message.toJson.encodedLen + 1

def bindingCharge (evidence : TaskAttemptBinding) : Nat :=
  evidence.toJson.encodedLen + 1

theorem checkedUsizeAdd_eq_ok {left right n : Nat} {overflow : String} :
    checkedUsizeAdd left right overflow = .ok n ↔ left + right < usizeLimit ∧ n = left + right := by
  rw [checkedUsizeAdd, seq_eq_ok, rejectIf_eq_ok, ok_eq_ok, decide_eq_false_iff_not, not_le]

theorem checkedGraphChargeAdd_eq_ok {left right n : Nat} :
    checkedGraphChargeAdd left right = .ok n ↔ left + right < usizeLimit ∧ n = left + right :=
  checkedUsizeAdd_eq_ok

variable {n : Nat}

theorem taskMaterializationChargeParts_eq_ok {taskId : TaskId} {definition : TaskDefinition}
    {status : TaskStatus} {attempts : UInt32} :
    taskMaterializationChargeParts taskId definition status attempts = .ok n ↔
      taskCharge (taskId, ⟨definition, status, attempts⟩) < usizeLimit ∧
        n = taskCharge (taskId, ⟨definition, status, attempts⟩) :=
  checkedUsizeAdd_eq_ok

theorem taskMaterializationCharge_eq_ok {taskId : TaskId} {record : TaskRecord} :
    taskMaterializationCharge taskId record = .ok n ↔
      taskCharge (taskId, record) < usizeLimit ∧ n = taskCharge (taskId, record) :=
  checkedUsizeAdd_eq_ok

theorem messageMaterializationCharge_eq_ok {message : TaskMessage} :
    messageMaterializationCharge message = .ok n ↔
      messageCharge message < usizeLimit ∧ n = messageCharge message :=
  checkedUsizeAdd_eq_ok

theorem attemptBindingMaterializationCharge_eq_ok {evidence : TaskAttemptBinding} :
    attemptBindingMaterializationCharge evidence = .ok n ↔
      bindingCharge evidence < usizeLimit ∧ n = bindingCharge evidence :=
  checkedUsizeAdd_eq_ok

theorem validateGraphCharge_eq_ok {charge : Nat} {u : Unit} :
    validateGraphCharge charge = .ok u ↔ charge ≤ maxTaskGraphJsonBytes := by
  rw [validateGraphCharge, rejectIf_decide, not_lt]

/-- An accumulating loop of checked additions is the sum, as long as the sum
fits. -/
theorem foldCharge_eq_ok {α : Type} {charge : α → Except HarnessError Nat} {cost : α → Nat}
    (charges : ∀ x n, charge x = .ok n ↔ cost x < usizeLimit ∧ n = cost x)
    (xs : List α) {start n : Nat} (fits : start < usizeLimit) :
    xs.foldlM (fun total x => do checkedGraphChargeAdd total (← charge x)) start = .ok n ↔
      start + (xs.map cost).sum < usizeLimit ∧ n = start + (xs.map cost).sum := by
  induction xs generalizing start with
  | nil =>
    rw [List.foldlM_nil]
    simp only [List.map_nil, List.sum_nil, Nat.add_zero]
    exact ok_eq_ok.trans ⟨fun same => ⟨fits, same⟩, fun h => h.2⟩
  | cons x xs ih =>
    rw [List.foldlM_cons, bind_eq_ok]
    simp only [List.map_cons, List.sum_cons]
    constructor
    · rintro ⟨total, added, rest⟩
      obtain ⟨cost', charged, sum⟩ := bind_eq_ok.1 added
      obtain ⟨_, rfl⟩ := (charges _ _).1 charged
      obtain ⟨within, rfl⟩ := checkedGraphChargeAdd_eq_ok.1 sum
      obtain ⟨bounded, rfl⟩ := (ih within).1 rest
      exact ⟨by omega, by omega⟩
    · rintro ⟨bounded, rfl⟩
      have within : start + cost x < usizeLimit := by omega
      refine ⟨start + cost x, bind_eq_ok.2 ⟨cost x, (charges _ _).2 ⟨by omega, rfl⟩,
        checkedGraphChargeAdd_eq_ok.2 ⟨within, rfl⟩⟩, ?_⟩
      exact (ih within).2 ⟨by omega, by omega⟩

namespace TaskGraph

/-- What recomputing the charge adds up. -/
def totalCharge (g : TaskGraph) : Nat :=
  taskGraphBaseChargeBytes + (g.tasks.toList.map taskCharge).sum +
    (g.messages.map messageCharge).sum + (g.attemptBindings.map bindingCharge).sum

/-- **Recomputing the charge** succeeds exactly within the graph boundary, and
returns the sum. -/
theorem calculateMaterializationCharge_eq_ok {g : TaskGraph} {n : Nat} :
    g.calculateMaterializationCharge = .ok n ↔
      g.totalCharge ≤ maxTaskGraphJsonBytes ∧ n = g.totalCharge := by
  have base : taskGraphBaseChargeBytes < usizeLimit := by decide
  have limit : maxTaskGraphJsonBytes < usizeLimit := by decide
  unfold calculateMaterializationCharge totalCharge
  constructor
  · intro computed
    obtain ⟨tasks, first, computed⟩ := bind_eq_ok.1 computed
    obtain ⟨within, rfl⟩ :=
      (foldCharge_eq_ok (fun _ _ => taskMaterializationCharge_eq_ok) _ base).1 first
    obtain ⟨messages, second, computed⟩ := bind_eq_ok.1 computed
    obtain ⟨within, rfl⟩ :=
      (foldCharge_eq_ok (fun _ _ => messageMaterializationCharge_eq_ok) _ within).1 second
    obtain ⟨bindings, third, computed⟩ := bind_eq_ok.1 computed
    obtain ⟨_, rfl⟩ :=
      (foldCharge_eq_ok (fun _ _ => attemptBindingMaterializationCharge_eq_ok) _ within).1 third
    obtain ⟨fits, ended⟩ := seq_eq_ok.1 computed
    exact ⟨validateGraphCharge_eq_ok.1 fits, ok_eq_ok.1 ended⟩
  · rintro ⟨fits, rfl⟩
    have tasks : taskGraphBaseChargeBytes + (g.tasks.toList.map taskCharge).sum < usizeLimit := by
      omega
    have messages : taskGraphBaseChargeBytes + (g.tasks.toList.map taskCharge).sum +
        (g.messages.map messageCharge).sum < usizeLimit := by
      omega
    have bindings : taskGraphBaseChargeBytes + (g.tasks.toList.map taskCharge).sum +
        (g.messages.map messageCharge).sum + (g.attemptBindings.map bindingCharge).sum <
          usizeLimit := by
      omega
    refine bind_eq_ok.2 ⟨_,
      (foldCharge_eq_ok (fun _ _ => taskMaterializationCharge_eq_ok) _ base).2 ⟨tasks, rfl⟩, ?_⟩
    refine bind_eq_ok.2 ⟨_,
      (foldCharge_eq_ok (fun _ _ => messageMaterializationCharge_eq_ok) _ tasks).2 ⟨messages, rfl⟩, ?_⟩
    refine bind_eq_ok.2 ⟨_, (foldCharge_eq_ok
      (fun _ _ => attemptBindingMaterializationCharge_eq_ok) _ messages).2 ⟨bindings, rfl⟩, ?_⟩
    exact seq_eq_ok.2 ⟨validateGraphCharge_eq_ok.2 fits, rfl⟩

/-! ## One write -/

end TaskGraph

/-- The record a mutation leaves. -/
def TaskMutation.recordOf (mutation : TaskMutation) (record : TaskRecord) : TaskRecord :=
  ⟨record.definition, mutation.status, mutation.attempts⟩

namespace TaskGraph

/-- The mutation may be written: its Task exists, and its evidence, if any,
matches the lease it starts and reuses no lease identity. -/
def Admissible (g : TaskGraph) (mutation : TaskMutation) : Prop :=
  (∃ record, g.tasks[mutation.id]? = some record) ∧
    ∀ evidence, mutation.attemptBinding = some evidence →
      checkMutationBinding mutation (g.attemptBindings.map (·.leaseId)) evidence = .ok ()

variable {mutations : List TaskMutation} {mutation : TaskMutation} {g next : TaskGraph}
  {record : TaskRecord} {id : TaskId}

theorem get?_writeMutation_self {g : TaskGraph} (found : g.tasks[mutation.id]? = some record) :
    (g.writeMutation mutation).tasks[mutation.id]? = some (mutation.recordOf record) := by
  rw [writeMutation]
  dsimp only
  rw [OrdMap.get?_modify_self, found]
  rfl

theorem get?_writeMutation_of_ne (g : TaskGraph) (ne : mutation.id ≠ id) :
    (g.writeMutation mutation).tasks[id]? = g.tasks[id]? :=
  OrdMap.get?_modify_of_ne g.tasks _ ne

@[simp] theorem writeMutation_attemptBindings (g : TaskGraph) (mutation : TaskMutation) :
    (g.writeMutation mutation).attemptBindings =
      g.attemptBindings ++ mutation.attemptBinding.toList := rfl

/-- What a record was before a write. -/
theorem get?_writeMutation_cases {g : TaskGraph}
    (found : (g.writeMutation mutation).tasks[id]? = some record) :
    (id = mutation.id ∧ ∃ before, g.tasks[id]? = some before ∧
        record = mutation.recordOf before) ∨
      (mutation.id ≠ id ∧ g.tasks[id]? = some record) := by
  by_cases same : mutation.id = id
  · subst same
    rw [writeMutation] at found
    dsimp only at found
    rw [OrdMap.get?_modify_self, Option.map_eq_some_iff] at found
    obtain ⟨before, earlier, rfl⟩ := found
    exact .inl ⟨rfl, before, earlier, rfl⟩
  · rw [get?_writeMutation_of_ne g same] at found
    exact .inr ⟨same, found⟩

theorem charge_writeMutation {g : TaskGraph} (found : g.tasks[mutation.id]? = some record) :
    (g.writeMutation mutation).totalCharge + taskCharge (mutation.id, record) =
      g.totalCharge + taskCharge (mutation.id, mutation.recordOf record) +
        (mutation.attemptBinding.toList.map bindingCharge).sum := by
  have moved := OrdMap.sum_toList_modify g.tasks
    (fun record => { record with status := mutation.status, attempts := mutation.attempts })
    taskCharge found
  simp only [totalCharge, writeMutation, List.map_append, List.sum_append, TaskMutation.recordOf]
  omega

/-! ## A batch of writes -/

theorem checkMutationBinding_congr {leaseIds others : List TaskLeaseId}
    {evidence : TaskAttemptBinding} (same : ∀ leaseId, leaseId ∈ leaseIds ↔ leaseId ∈ others)
    (checked : checkMutationBinding mutation leaseIds evidence = .ok ()) :
    checkMutationBinding mutation others evidence = .ok () := by
  have agree : decide (evidence.leaseId ∈ others) = decide (evidence.leaseId ∈ leaseIds) :=
    decide_eq_decide.2 (same _).symm
  unfold checkMutationBinding at checked ⊢
  rw [agree]
  exact checked

/-- A batch as a sequence of admissible writes. -/
inductive Writes : TaskGraph → List TaskMutation → TaskGraph → Prop
  | nil (g : TaskGraph) : Writes g [] g
  | cons {g next : TaskGraph} {mutation : TaskMutation} {rest : List TaskMutation}
      (admissible : g.Admissible mutation) (fresh : ∀ later ∈ rest, later.id ≠ mutation.id)
      (writes : Writes (g.writeMutation mutation) rest next) : Writes g (mutation :: rest) next

/-- **Batch induction.**  A property that every admissible write of a mutation
with `sound` keeps holds after the batch, when later mutations stay sound. -/
theorem Writes.keep {holds : TaskGraph → Prop} {sound : TaskGraph → TaskMutation → Prop}
    (write : ∀ {g mutation}, holds g → g.Admissible mutation → sound g mutation →
      holds (g.writeMutation mutation))
    (stays : ∀ {g mutation later}, g.Admissible mutation → later.id ≠ mutation.id →
      sound g later → sound (g.writeMutation mutation) later) (writes : Writes g mutations next)
    (held : holds g) (all : ∀ mutation ∈ mutations, sound g mutation) : holds next := by
  induction writes with
  | nil => exact held
  | @cons g next mutation rest admissible fresh _ ih =>
    have first := write held admissible (all mutation List.mem_cons_self)
    apply ih first
    intro later member
    exact stays admissible (fresh later member) (all later (List.mem_cons_of_mem _ member))

/-- A record no mutation of the batch names is unchanged. -/
theorem Writes.get?_of_unnamed (writes : Writes g mutations next)
    (unnamed : ∀ m ∈ mutations, m.id ≠ id) :
    next.tasks[id]? = g.tasks[id]? := by
  induction writes with
  | nil => rfl
  | @cons g next mutation rest _ _ _ ih =>
    rw [ih fun m member => unnamed m (List.mem_cons_of_mem _ member),
      get?_writeMutation_of_ne g (unnamed mutation List.mem_cons_self)]

/-- A record a mutation of the batch names is what the mutation says. -/
theorem Writes.get?_of_named (writes : Writes g mutations next) (named : mutation ∈ mutations) :
    ∃ before, g.tasks[mutation.id]? = some before ∧
      next.tasks[mutation.id]? = some (mutation.recordOf before) := by
  induction writes with
  | nil => cases named
  | @cons g next head rest admissible fresh writes ih =>
    rcases List.mem_cons.1 named with rfl | later
    · obtain ⟨⟨before, found⟩, _⟩ := admissible
      refine ⟨before, found, ?_⟩
      rw [writes.get?_of_unnamed fresh, get?_writeMutation_self found]
    · obtain ⟨before, found, after⟩ := ih later
      refine ⟨before, ?_, after⟩
      rw [get?_writeMutation_of_ne g (Ne.symm (fresh mutation later))] at found
      exact found

/-- **Records after a batch**: rewritten by the mutation that names them, or
unchanged. -/
theorem Writes.lookup (writes : Writes g mutations next) (found : next.tasks[id]? = some record) :
    (∃ mutation ∈ mutations, mutation.id = id ∧ ∃ before, g.tasks[id]? = some before ∧
        record = mutation.recordOf before) ∨
      ((∀ mutation ∈ mutations, mutation.id ≠ id) ∧ g.tasks[id]? = some record) := by
  by_cases named : ∃ mutation ∈ mutations, mutation.id = id
  · obtain ⟨mutation, member, rfl⟩ := named
    obtain ⟨before, earlier, after⟩ := writes.get?_of_named member
    rw [after, Option.some.injEq] at found
    exact .inl ⟨mutation, member, rfl, before, earlier, found.symm⟩
  · push Not at named
    exact .inr ⟨named, (writes.get?_of_unnamed named).symm.trans found⟩

theorem Writes.messages (writes : Writes g mutations next) :
    next.messages = g.messages ∧ next.nextMessageSequence = g.nextMessageSequence := by
  induction writes with
  | nil => exact ⟨rfl, rfl⟩
  | cons _ _ _ ih => exact ih

theorem Writes.length_attemptBindings (writes : Writes g mutations next) :
    next.attemptBindings.length = g.attemptBindings.length +
      mutations.countP fun mutation => mutation.attemptBinding.isSome := by
  induction writes with
  | nil => simp
  | @cons g next mutation rest _ _ _ ih =>
    rw [ih, writeMutation_attemptBindings, List.length_append, List.countP_cons]
    cases mutation.attemptBinding with
    | none => simp
    | some evidence => simp; omega

/-- The checking loop, run beside the writes: `h` is the graph the writes have
reached, and the accumulators describe it. -/
theorem checkMutations_writes {g : TaskGraph} :
    ∀ (h : TaskGraph) {seen : List TaskId} {leaseIds : List TaskLeaseId} {charge total : Nat},
      g.checkMutations seen leaseIds charge mutations = .ok total →
      (∀ id, id ∉ seen → h.tasks[id]? = g.tasks[id]?) →
      (∀ leaseId, leaseId ∈ leaseIds ↔ leaseId ∈ h.attemptBindings.map (·.leaseId)) →
      charge = h.totalCharge →
      Writes h mutations (mutations.foldl writeMutation h) ∧
        (∀ mutation ∈ mutations, mutation.id ∉ seen) ∧
        total = (mutations.foldl writeMutation h).totalCharge := by
  induction mutations with
  | nil =>
    intro h seen leaseIds charge total checked _ _ charged
    refine ⟨.nil h, by simp, ?_⟩
    rw [checkMutations, ok_eq_ok] at checked
    rw [checked, charged]
    rfl
  | cons mutation rest ih =>
    intro h seen leaseIds charge total checked unseen leases charged
    rw [checkMutations, seq_eq_ok, rejectIf_decide] at checked
    obtain ⟨unnamed, checked⟩ := checked
    obtain ⟨record, found, checked⟩ := bind_eq_ok.1 checked
    rw [orError_eq_ok, ← unseen _ unnamed] at found
    obtain ⟨current, chargedNow, checked⟩ := bind_eq_ok.1 checked
    obtain ⟨_, rfl⟩ := taskMaterializationCharge_eq_ok.1 chargedNow
    obtain ⟨candidate, chargedNext, checked⟩ := bind_eq_ok.1 checked
    obtain ⟨_, rfl⟩ := taskMaterializationChargeParts_eq_ok.1 chargedNext
    rw [seq_eq_ok, rejectIf_decide] at checked
    obtain ⟨enough, checked⟩ := checked
    obtain ⟨charge', added, checked⟩ := bind_eq_ok.1 checked
    obtain ⟨_, rfl⟩ := checkedGraphChargeAdd_eq_ok.1 added
    have moved := charge_writeMutation found
    -- what the loop knows about the graph after this write
    have unseen' : ∀ id, id ∉ mutation.id :: seen →
        (h.writeMutation mutation).tasks[id]? = g.tasks[id]? := by
      intro id absent
      rw [List.mem_cons, not_or] at absent
      rw [get?_writeMutation_of_ne h (Ne.symm absent.1), unseen id absent.2]
    cases evidence : mutation.attemptBinding with
    | none =>
      rw [evidence] at checked moved
      have leases' : ∀ leaseId, leaseId ∈ leaseIds ↔
          leaseId ∈ (h.writeMutation mutation).attemptBindings.map (·.leaseId) := by
        intro leaseId
        rw [writeMutation_attemptBindings, evidence]
        simpa using leases leaseId
      obtain ⟨writes, others, ended⟩ := ih _ checked unseen' leases' (by
        simp only [Option.toList_none, List.map_nil, List.sum_nil, TaskMutation.recordOf]
          at moved
        omega)
      refine ⟨.cons ⟨⟨record, found⟩, by simp [evidence]⟩ ?_ writes, ?_, ended⟩
      · intro later member same
        exact others later member (same ▸ List.mem_cons_self)
      · intro later member
        rcases List.mem_cons.1 member with rfl | member
        · exact unnamed
        · exact fun here => others later member (List.mem_cons_of_mem _ here)
    | some proof =>
      rw [evidence] at checked moved
      obtain ⟨bound, checked⟩ := seq_eq_ok.1 checked
      obtain ⟨bindingCost, charged', checked⟩ := bind_eq_ok.1 checked
      obtain ⟨_, rfl⟩ := attemptBindingMaterializationCharge_eq_ok.1 charged'
      obtain ⟨charge', added, checked⟩ := bind_eq_ok.1 checked
      obtain ⟨_, rfl⟩ := checkedGraphChargeAdd_eq_ok.1 added
      have leases' : ∀ leaseId, leaseId ∈ proof.leaseId :: leaseIds ↔
          leaseId ∈ (h.writeMutation mutation).attemptBindings.map (·.leaseId) := by
        intro leaseId
        rw [writeMutation_attemptBindings, evidence, List.mem_cons, leases leaseId,
          List.map_append, List.mem_append, or_comm]
        simp
      obtain ⟨writes, others, ended⟩ := ih _ checked unseen' leases' (by
        simp only [Option.toList_some, List.map_cons, List.map_nil, List.sum_cons,
          List.sum_nil, TaskMutation.recordOf] at moved
        omega)
      have matched : checkMutationBinding mutation (h.attemptBindings.map (·.leaseId)) proof =
          .ok () := checkMutationBinding_congr leases bound
      refine ⟨.cons ⟨⟨record, found⟩, ?_⟩ ?_ writes, ?_, ended⟩
      · intro other is
        rw [evidence, Option.some.injEq] at is
        exact is ▸ matched
      · intro later member same
        exact others later member (same ▸ List.mem_cons_self)
      · intro later member
        rcases List.mem_cons.1 member with rfl | member
        · exact unnamed
        · exact fun here => others later member (List.mem_cons_of_mem _ here)

/-- **A batch that is applied** is a sequence of admissible writes; the charge
afterwards is the recomputed one and within the boundary. -/
theorem applyTaskMutations_eq_ok (consistent : g.materializationChargeBytes = g.totalCharge)
    (applied : g.applyTaskMutations mutations = .ok next) :
    ∃ written, Writes g mutations written ∧
      next = { written with materializationChargeBytes := written.totalCharge } ∧
      written.totalCharge ≤ maxTaskGraphJsonBytes ∧
      written.attemptBindings.length ≤ maxTaskAttemptBindings := by
  rw [applyTaskMutations, seq_eq_ok, rejectIf_decide, not_lt] at applied
  obtain ⟨room, applied⟩ := applied
  obtain ⟨total, checked, applied⟩ := bind_eq_ok.1 applied
  obtain ⟨fits, applied⟩ := seq_eq_ok.1 applied
  obtain ⟨writes, _, rfl⟩ := checkMutations_writes g checked (fun _ _ => rfl)
    (fun _ => Iff.rfl) consistent
  refine ⟨_, writes, ok_eq_ok.1 applied, validateGraphCharge_eq_ok.1 fits, ?_⟩
  rw [writes.length_attemptBindings]
  exact room

end TaskGraph

end YHarness.Orchestration

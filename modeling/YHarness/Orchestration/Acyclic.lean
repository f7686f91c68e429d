/-
# YHarness.Orchestration.Acyclic -- the acyclicity check is exact

`validateAcyclic` walks the dependencies depth first.  On a map whose dependencies
are all Tasks of the map the walk ends well exactly when no Task reaches itself
(`validateAcyclic_iff`): a walk that ends well lists every Task after its
dependencies, and without a cycle no visit meets its own path (`visit_succeeds`).
-/
import YHarness.Orchestration.Progress

namespace YHarness.Orchestration

open YHarness.Lib YHarness.Kernel

set_option autoImplicit false

/-- The Task `id` of the map depends on `dependency`. -/
def Depends (tasks : OrdMap TaskId TaskRecord) (id dependency : TaskId) : Prop :=
  ∃ record, tasks[id]? = some record ∧ dependency ∈ record.definition.dependencies

/-- Every dependency is a Task of the map. -/
def Closed (tasks : OrdMap TaskId TaskRecord) : Prop :=
  ∀ id dependency, Depends tasks id dependency → tasks.contains dependency = true

theorem foldlM_succeeds {step : List TaskId → TaskId → Except HarnessError (List TaskId)}
    {ids : List TaskId} (each : ∀ id ∈ ids, ∀ before, ∃ after, step before id = .ok after) :
    ∀ before, ∃ after, ids.foldlM step before = .ok after := by
  induction ids with
  | nil => exact fun before => ⟨before, rfl⟩
  | cons id ids ih =>
    intro before
    obtain ⟨middle, first⟩ := each id List.mem_cons_self before
    obtain ⟨after, rest⟩ := ih (fun other member => each other (List.mem_cons_of_mem _ member)) middle
    exact ⟨after, by rw [List.foldlM_cons, first, ok_bind, rest]⟩

/-- **A visit without a cycle.**  Every Task of the path leads to the one visited,
so the one visited is not on the path. -/
theorem visit_succeeds {tasks : OrdMap TaskId TaskRecord} (closed : Closed tasks)
    (acyclic : ∀ id, ¬ Relation.TransGen (Depends tasks) id id) :
    ∀ (fuel : Nat) (id : TaskId) (visiting visited : List TaskId), visiting.Nodup →
      (∀ other ∈ visiting, tasks.contains other = true) → tasks.size < fuel + visiting.length →
      tasks.contains id = true → (∀ other ∈ visiting, Relation.TransGen (Depends tasks) other id) →
      ∃ after, visit tasks fuel id visiting visited = .ok after := by
  intro fuel
  induction fuel with
  | zero =>
    intro id visiting visited distinct known long
    have short := path_length_le distinct known
    omega
  | succ fuel ih =>
    intro id visiting visited distinct known long here leads
    rw [visit]
    by_cases done : id ∈ visited
    · exact ⟨visited, if_pos done⟩
    · have off : id ∉ visiting := fun member => acyclic id (leads id member)
      obtain ⟨record, found⟩ := OrdMap.contains_iff.1 here
      have deeper : ∀ dependency ∈ record.definition.dependencies.toList, ∀ visited,
          ∃ after, visit tasks fuel dependency (id :: visiting) visited = .ok after := by
        intro dependency listed visited
        have edge : Depends tasks id dependency :=
          ⟨record, found, Std.ExtTreeSet.mem_toList.1 listed⟩
        apply ih
        · exact List.nodup_cons.2 ⟨off, distinct⟩
        · intro other member
          rcases List.mem_cons.1 member with rfl | member
          · exact here
          · exact known other member
        · rw [List.length_cons]
          omega
        · exact closed id dependency edge
        · intro other member
          rcases List.mem_cons.1 member with rfl | member
          · exact .single edge
          · exact (leads other member).tail edge
      obtain ⟨after, ended⟩ := foldlM_succeeds deeper visited
      refine ⟨id :: after, ?_⟩
      simp only [if_neg done, decide_eq_false off, rejectIf_false, ok_bind, found, orError, ended]

variable {definitions : List TaskDefinition} {tasks : OrdMap TaskId TaskRecord}

theorem mem_ids {id : TaskId} :
    id ∈ tasks.toList.map (·.1) ↔ tasks.contains id = true := by
  rw [OrdMap.contains_iff, List.mem_map]
  constructor
  · rintro ⟨⟨_, record⟩, member, rfl⟩
    exact ⟨record, OrdMap.mem_toList.1 member⟩
  · rintro ⟨record, found⟩
    exact ⟨(id, record), OrdMap.mem_toList.2 found, rfl⟩

/-- The walk ends well exactly on an acyclic map. -/
theorem validateAcyclic_iff (closed : Closed tasks) :
    validateAcyclic tasks = .ok () ↔ ∀ id, ¬ Relation.TransGen (Depends tasks) id id := by
  constructor
  · intro accepted id cycle
    have founded := (TaskGraph.wellFounded_of_acyclic (g := ⟨tasks, [], [], 1, 0⟩) accepted).transGen
    have around := Relation.transGen_swap.2 cycle
    exact founded.asymmetric id id around around
  · intro acyclic
    obtain ⟨visited, ended⟩ := foldlM_succeeds
      (fun id member before => visit_succeeds closed acyclic (tasks.size + 1) id [] before
        List.nodup_nil (by simp) (by simp) (mem_ids.1 member) (by simp)) []
    rw [validateAcyclic, ended, ok_bind]

/-! ## Lists of definitions -/

/-- The pending records `TaskGraph::new` collects. -/
def taskMap (definitions : List TaskDefinition) : OrdMap TaskId TaskRecord :=
  definitions.foldl
    (fun tasks definition => tasks.insert definition.id ⟨definition, .pending, 0⟩) ∅

theorem insertDefinitions_eq :
    ∀ {tasks built : OrdMap TaskId TaskRecord}, insertDefinitions tasks definitions = .ok built →
      built = definitions.foldl
        (fun tasks definition => tasks.insert definition.id ⟨definition, .pending, 0⟩) tasks := by
  induction definitions with
  | nil =>
    intro tasks built inserted
    obtain rfl := ok_eq_ok.1 inserted
    rfl
  | cons head rest ih =>
    intro tasks built inserted
    rw [insertDefinitions] at inserted
    replace inserted := rest_ok (rest_ok inserted)
    exact ih inserted

theorem get?_foldl_insert :
    ∀ {tasks : OrdMap TaskId TaskRecord} {id : TaskId} {record : TaskRecord},
      (definitions.map (·.id)).Nodup → (∀ definition ∈ definitions, tasks[definition.id]? = none) →
      ((definitions.foldl (fun tasks definition =>
          tasks.insert definition.id ⟨definition, .pending, 0⟩) tasks)[id]? = some record ↔
        tasks[id]? = some record ∨ ∃ definition ∈ definitions,
          definition.id = id ∧ record = ⟨definition, .pending, 0⟩) := by
  induction definitions with
  | nil => intro tasks id record _ _; simp
  | cons head rest ih =>
    intro tasks id record unique fresh
    rw [List.map_cons, List.nodup_cons, List.mem_map] at unique
    have apart : ∀ definition ∈ rest, definition.id ≠ head.id :=
      fun definition member same => unique.1 ⟨definition, member, same⟩
    have later : ∀ definition ∈ rest,
        (tasks.insert head.id ⟨head, .pending, 0⟩)[definition.id]? = none := by
      intro definition member
      rw [OrdMap.get?_insert_of_ne _ _ (apart definition member).symm]
      exact fresh definition (List.mem_cons_of_mem _ member)
    rw [List.foldl_cons, ih unique.2 later]
    by_cases named : head.id = id
    · subst named
      simp [fresh head List.mem_cons_self, eq_comm]
    · rw [OrdMap.get?_insert_of_ne _ _ named]
      simp [named]

/-- The definition named `id` lists `dependency`. -/
def Lists (definitions : List TaskDefinition) (id dependency : TaskId) : Prop :=
  ∃ definition ∈ definitions, definition.id = id ∧ dependency ∈ definition.dependencies

theorem get?_taskMap (unique : (definitions.map (·.id)).Nodup) {id : TaskId} {record : TaskRecord} :
    (taskMap definitions)[id]? = some record ↔
      ∃ definition ∈ definitions, definition.id = id ∧ record = ⟨definition, .pending, 0⟩ := by
  rw [taskMap, get?_foldl_insert unique (fun _ _ => OrdMap.get?_empty _), OrdMap.get?_empty]
  simp only [reduceCtorEq, false_or]

theorem depends_taskMap (unique : (definitions.map (·.id)).Nodup) {id dependency : TaskId} :
    Depends (taskMap definitions) id dependency ↔ Lists definitions id dependency := by
  simp only [Depends, Lists, get?_taskMap unique]
  constructor
  · rintro ⟨_, ⟨definition, member, rfl, rfl⟩, listed⟩
    exact ⟨definition, member, rfl, listed⟩
  · rintro ⟨definition, member, rfl, listed⟩
    exact ⟨_, ⟨definition, member, rfl, rfl⟩, listed⟩

/-- **Dependency validation is exact.**  On the Tasks of a construction,
`validate_acyclic` accepts exactly when no chain of dependencies returns to its
start, a dependency of a Task on itself included. -/
theorem dependency_validation_exact (definitions : List TaskDefinition)
    (unique : (definitions.map (·.id)).Nodup)
    (existing : ∀ definition ∈ definitions, ∀ dependency ∈ definition.dependencies,
      dependency ∈ definitions.map (·.id)) :
    (validateAcyclic (taskMap definitions) = .ok () ↔
      ¬ ∃ id, Relation.TransGen (Lists definitions) id id) ∧
    ∀ built, insertDefinitions ∅ definitions = .ok built → built = taskMap definitions := by
  refine ⟨?_, fun built inserted => insertDefinitions_eq inserted⟩
  have same : Depends (taskMap definitions) = Lists definitions := by
    funext id dependency
    exact propext (depends_taskMap unique)
  have closed : Closed (taskMap definitions) := by
    intro id dependency depends
    obtain ⟨definition, member, _, listed⟩ := (depends_taskMap unique).1 depends
    obtain ⟨other, known, named⟩ := List.mem_map.1 (existing definition member dependency listed)
    exact OrdMap.contains_iff.2
      ⟨⟨other, .pending, 0⟩, (get?_taskMap unique).2 ⟨other, known, named, rfl⟩⟩
  rw [validateAcyclic_iff closed, same, not_exists]

/-- The two Tasks of the sample graph have no cycle, since they are accepted. -/
theorem dependency_validation_exact_sample :
    ¬ ∃ id, Relation.TransGen (Lists TaskGraph.sampleDefinitions) id id := by
  have accepted : validateAcyclic (taskMap TaskGraph.sampleDefinitions) = .ok () := by
    decide +kernel
  refine (dependency_validation_exact TaskGraph.sampleDefinitions (by decide) ?_).1.1 accepted
  intro definition member dependency listed
  simp only [TaskGraph.sampleDefinitions, List.mem_cons, List.not_mem_nil, or_false] at member
  rcases member with rfl | rfl
  · rw [Std.ExtTreeSet.mem_ofList] at listed
    simp_all [TaskGraph.sampleDefinitions]
  · exact absurd listed Std.ExtTreeSet.not_mem_empty

end YHarness.Orchestration

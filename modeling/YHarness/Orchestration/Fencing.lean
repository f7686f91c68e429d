/-
# YHarness.Orchestration.Fencing -- a lease admits one settlement

A run is a list of `Step`s, each a call with the graph it was made on.  `Moves`
says what one call may do to a record: a settled record stays, the attempt
counter never falls, and a Running record that started no attempt keeps its
lease.  Over a run (`Ledgered`) every lease identity belongs to one Task and is
never current again once it was lost, so

* `lease_fencing`: settled Tasks and attempt counters only move forward, a
  heartbeat or settlement needs the current unexpired lease, a lost lease changes
  nothing, and no lease and no Task is settled twice.

The operations are called with a lease, not with a worker: `worker_unchecked` is
a run in which another worker settles a Task.
-/
import YHarness.Orchestration.Progress

namespace YHarness.Orchestration

open YHarness.Lib YHarness.Kernel

set_option autoImplicit false

/-- The Task, the lease and the time a call is fenced by. -/
def DomainCall.fence : DomainCall → Option (TaskId × TaskLeaseId × UInt64)
  | .heartbeat taskId leaseId nowMs _ | .complete taskId leaseId nowMs _
  | .fail taskId leaseId nowMs _ => some (taskId, leaseId, nowMs)
  | _ => none

/-- The Task and the lease a call settles. -/
def DomainCall.settles : DomainCall → Option (TaskId × TaskLeaseId)
  | .complete taskId leaseId _ _ | .fail taskId leaseId _ _ => some (taskId, leaseId)
  | _ => none

/-- The Task a call completes. -/
def DomainCall.completes : DomainCall → Option TaskId
  | .complete taskId _ _ _ => some taskId
  | _ => none

def TaskStatus.leaseId : TaskStatus → Option TaskLeaseId
  | running lease => some lease.id
  | _ => none

namespace TaskGraph

/-- The lease a Task runs under. -/
def leaseOf (g : TaskGraph) (taskId : TaskId) : Option TaskLeaseId :=
  (g.tasks[taskId]?).bind fun record => record.status.leaseId

/-- The lease of a record that has started another attempt than before. -/
def startedLease (before : TaskGraph) (entry : TaskId × TaskRecord) : Option TaskLeaseId :=
  match before.tasks[entry.1]? with
  | some record => if record.attempts < entry.2.attempts then entry.2.status.leaseId else none
  | none => none

/-- The leases handed out between two graphs. -/
def startedLeases (before after : TaskGraph) : List TaskLeaseId :=
  after.tasks.toList.filterMap before.startedLease

/-! ## One call -/

/-- What one call may do to a record. -/
structure Moves (before after : TaskRecord) : Prop where
  settled : before.status.isTerminal = true → after = before
  attempts : before.attempts ≤ after.attempts
  lease : ∀ leaseId, after.status.leaseId = some leaseId →
    before.attempts < after.attempts ∨ before.status.leaseId = some leaseId

theorem Moves.refl (record : TaskRecord) : Moves record record :=
  ⟨fun _ => rfl, UInt32.le_refl _, fun _ held => .inr held⟩

variable {leaseId : TaskLeaseId} {g : TaskGraph} {call : DomainCall} {id : TaskId} {taskId : TaskId}
  {record : TaskRecord}

/-- A batch moves the records it names. -/
theorem Batch.moves (keyed : g.Keyed) {mutations : List TaskMutation} (batch : Batch g mutations)
    {mutation : TaskMutation} (member : mutation ∈ mutations)
    (found : g.tasks[mutation.id]? = some record) :
    Moves record (mutation.recordOf record) := by
  have live : record.status.isTerminal = false := by
    obtain ⟨other, here, live⟩ := batch.live keyed mutation member
    rw [found, Option.some.injEq] at here
    rw [here]
    exact live
  -- a record that keeps its counter and runs under no other lease
  have stays : mutation.attempts = record.attempts →
      (∀ leaseId, mutation.status.leaseId = some leaseId →
        record.status.leaseId = some leaseId) → Moves record (mutation.recordOf record) := by
    intro same held
    refine ⟨fun terminal => ?_, ?_, fun leaseId after => .inr (held leaseId after)⟩
    · rw [live] at terminal
      cases terminal
    · show record.attempts ≤ mutation.attempts
      rw [same]
      exact UInt32.le_refl _
  have blocks : ∀ {expired : List TaskId} {extra : Option TaskId},
      mutation ∈ g.blockedMutations expired extra → Moves record (mutation.recordOf record) := by
    intro expired extra blocked
    obtain ⟨other, known, _, _, _, _, _, rfl⟩ :=
      (blockedMutations_blocks g expired extra).each mutation blocked
    have here := keyed.mem_values.1 known
    rw [here, Option.some.injEq] at found
    subst found
    exact stays rfl (fun _ held => by cases held)
  have releases : g.Released mutation → Moves record (mutation.recordOf record) := by
    rintro ⟨other, lease, here, _, shape⟩
    rw [found, Option.some.injEq] at here
    rw [shape] at stays ⊢
    exact stays (by rw [here]) (fun _ held => by cases held)
  have settles : ∀ {id : TaskId} {other : TaskRecord} {status : TaskStatus},
      g.tasks[id]? = some other → status.leaseId = none →
      mutation = ⟨id, status, other.attempts, none⟩ →
      Moves record (mutation.recordOf record) := by
    rintro id other status here idle rfl
    rw [found, Option.some.injEq] at here
    refine stays (by rw [here]) fun leaseId held => ?_
    rw [idle] at held
    cases held
  cases batch with
  | heartbeat expiresAtMs here running =>
    rw [List.mem_singleton] at member
    subst member
    rw [found, Option.some.injEq] at here
    subst here
    refine stays rfl fun leaseId held => ?_
    rw [running]
    exact held
  | complete here =>
    rw [List.mem_singleton] at member
    exact settles here rfl member
  | stop here _ stopped =>
    rcases List.mem_cons.1 member with head | blocked
    · refine settles here ?_ head
      rcases stopped with rfl | rfl <;> rfl
    · exact blocks blocked
  | release each => exact releases (each mutation member)
  | claim _ released claims =>
    rcases List.mem_append.1 member with earlier | claimed
    · rcases List.mem_append.1 earlier with blocked | here
      · exact blocks blocked
      · exact releases (released mutation here).1
    · obtain ⟨other, lease, claimed⟩ := claims mutation claimed
      have here := claimed.found
      rw [found, Option.some.injEq] at here
      subst here
      have grows : record.attempts < mutation.attempts := by
        rw [UInt32.lt_iff_toNat_lt, claimed.attempts]
        omega
      refine ⟨fun terminal => ?_, ?_, fun _ _ => .inl grows⟩
      · rw [live] at terminal
        cases terminal
      · exact UInt32.le_of_lt grows

/-- **One call**, successful or not, moves every record. -/
theorem Kept.moves (kept : g.Kept) (call : DomainCall) (found : g.tasks[id]? = some record) :
    ∃ next, (g.after call).tasks[id]? = some next ∧ Moves record next := by
  unfold TaskGraph.after
  split
  · rename_i next performed
    rcases perform_cases kept.intact.keyed performed with ⟨mutations, batch, applied⟩ |
      ⟨message, sends, _⟩
    · obtain ⟨written, writes, rfl, _, _⟩ := applyTaskMutations_eq_ok kept.charged applied
      by_cases named : ∃ mutation ∈ mutations, mutation.id = id
      · obtain ⟨mutation, member, rfl⟩ := named
        obtain ⟨before, here, after⟩ := writes.get?_of_named member
        rw [found, Option.some.injEq] at here
        subst here
        exact ⟨_, after, batch.moves kept.intact.keyed member found⟩
      · push Not at named
        refine ⟨record, ?_, .refl record⟩
        exact (writes.get?_of_unnamed named).trans found
    · obtain rfl := sends.after
      exact ⟨record, found, .refl record⟩
  · exact ⟨record, found, .refl record⟩

/-- No call adds a Task. -/
theorem Kept.known_before (kept : g.Kept) (call : DomainCall) {next : TaskRecord}
    (found : (g.after call).tasks[id]? = some next) :
    ∃ record, g.tasks[id]? = some record := by
  unfold TaskGraph.after at found
  split at found
  · rename_i after performed
    rcases perform_cases kept.intact.keyed performed with ⟨mutations, _, applied⟩ |
      ⟨message, sends, _⟩
    · obtain ⟨written, writes, rfl, _, _⟩ := applyTaskMutations_eq_ok kept.charged applied
      rcases writes.lookup found with ⟨mutation, _, rfl, before, here, _⟩ | ⟨_, here⟩
      · exact ⟨before, here⟩
      · exact ⟨next, here⟩
    · obtain rfl := sends.after
      exact ⟨next, found⟩
  · exact ⟨next, found⟩

/-- A fenced call that succeeds is made with the current unexpired lease. -/
theorem fence_held {g next : TaskGraph} {nowMs : UInt64}
    (fenced : call.fence = some (taskId, leaseId, nowMs)) (performed : g.perform call = .ok next) :
    ∃ record lease, g.tasks[taskId]? = some record ∧ record.status = .running lease ∧
      lease.id = leaseId ∧ nowMs < lease.expiresAtMs := by
  have current : ∃ lease, g.currentLease taskId leaseId nowMs = .ok lease := by
    cases call with
    | heartbeat =>
      cases fenced
      obtain ⟨lease, held, _⟩ := bind_eq_ok.1 performed
      exact ⟨lease, held⟩
    | complete | fail =>
      cases fenced
      replace performed := rest_ok performed
      obtain ⟨lease, held, _⟩ := bind_eq_ok.1 performed
      exact ⟨lease, held⟩
    | _ => cases fenced
  obtain ⟨lease, held⟩ := current
  obtain ⟨record, found, running⟩ := currentLease_eq_ok held
  refine ⟨record, lease, found, running, ?_⟩
  rw [currentLease, found] at held
  simp only [orError, ok_bind, running, seq_eq_ok, rejectIf_eq_ok, bne_eq_false_iff_eq,
    decide_eq_false_iff_not, UInt64.not_le] at held
  exact ⟨held.1, held.2.1⟩

/-! ## Runs -/

/-- A call with the worker that makes it; no operation reads the worker. -/
structure WorkerCall where
  worker : String
  call : DomainCall

/-- A call of a run, with the graph it is made on. -/
structure Step where
  graph : TaskGraph
  made : WorkerCall

namespace Step

def after (s : Step) : TaskGraph :=
  s.graph.after s.made.call

def Accepted (s : Step) : Prop :=
  ∃ next, s.graph.perform s.made.call = .ok next

/-- The leases a step hands out. -/
def issued (s : Step) : List TaskLeaseId :=
  startedLeases s.graph s.after

theorem after_of_rejected {s : Step} (rejected : ¬ s.Accepted) : s.after = s.graph := by
  unfold Step.after TaskGraph.after
  split
  · rename_i next performed
    exact absurd ⟨next, performed⟩ rejected
  · rfl

end Step

/-- The leases a run hands out. -/
def issuedLeases (steps : List Step) : List TaskLeaseId :=
  steps.flatMap Step.issued

/-- Calls made one after the other, from one graph to another. -/
inductive Trace : TaskGraph → List Step → TaskGraph → Prop
  | nil (g : TaskGraph) : Trace g [] g
  | cons {g last : TaskGraph} {made : WorkerCall} {steps : List Step}
      (rest : Trace (g.after made.call) steps last) : Trace g (⟨g, made⟩ :: steps) last

/-- The calls of a run from a construction. -/
def Run (steps : List Step) (g : TaskGraph) : Prop :=
  ∃ definitions start, TaskGraph.new definitions = .ok start ∧ Trace start steps g

/-- The graphs of a run in order. -/
def graphs (steps : List Step) (g : TaskGraph) : List TaskGraph :=
  steps.map (·.graph) ++ [g]

theorem Trace.split {g last : TaskGraph} {before rest : List Step} {s : Step}
    (trace : Trace g (before ++ s :: rest) last) :
    Trace g before s.graph ∧ Trace s.graph (s :: rest) last := by
  induction before generalizing g with
  | nil =>
    cases trace with
    | cons later => exact ⟨.nil _, .cons later⟩
  | cons first before ih =>
    cases trace with
    | cons later =>
      obtain ⟨earlier, rest⟩ := ih later
      exact ⟨.cons earlier, rest⟩

variable {steps : List Step}

theorem Trace.kept {g last : TaskGraph} (trace : Trace g steps last) (kept : g.Kept) :
    last.Kept := by
  induction trace with
  | nil => exact kept
  | cons _ ih => exact ih (kept.after _)

/-- What stays true of the Tasks of a graph: settled ones are unchanged and no
attempt counter falls. -/
def Later (earlier later : TaskGraph) : Prop :=
  ∀ (id : TaskId) (record : TaskRecord), earlier.tasks[id]? = some record →
    ∃ next, later.tasks[id]? = some next ∧
      (record.status.isTerminal = true → next = record) ∧ record.attempts ≤ next.attempts

theorem Later.trans {g h k : TaskGraph} (first : Later g h) (second : Later h k) : Later g k := by
  intro id record found
  obtain ⟨middle, there, settled, counted⟩ := first id record found
  obtain ⟨next, last, settled', counted'⟩ := second id middle there
  refine ⟨next, last, fun terminal => ?_, UInt32.le_trans counted counted'⟩
  have same := settled terminal
  subst same
  exact settled' terminal

theorem Kept.later (kept : g.Kept) (call : DomainCall) :
    Later g (g.after call) := by
  intro id record found
  obtain ⟨next, there, moves⟩ := kept.moves call found
  exact ⟨next, there, moves.settled, moves.attempts⟩

theorem Trace.later {g last : TaskGraph} (trace : Trace g steps last) (kept : g.Kept) :
    Later g last := by
  induction trace with
  | nil => exact fun id record found => ⟨record, found, fun _ => rfl, UInt32.le_refl _⟩
  | cons _ ih => exact (kept.later _).trans (ih (kept.after _))

/-- Every later graph of a run keeps what an earlier one has settled. -/
theorem Trace.pairwise {g last : TaskGraph} (trace : Trace g steps last) (kept : g.Kept) :
    (graphs steps last).Pairwise Later := by
  induction trace with
  | nil => simp [graphs]
  | @cons g last made steps rest ih =>
    have tail := ih (kept.after made.call)
    show (g :: graphs steps last).Pairwise Later
    refine List.pairwise_cons.2 ⟨fun h member => ?_, tail⟩
    refine (kept.later made.call).trans ?_
    rcases List.mem_append.1 member with among | ended
    · obtain ⟨s, here, rfl⟩ := List.mem_map.1 among
      obtain ⟨before, after, rfl⟩ := List.append_of_mem here
      exact rest.split.1.later (kept.after made.call)
    · rw [List.mem_singleton.1 ended]
      exact rest.later (kept.after made.call)

/-! ## Leases over a run -/

theorem leaseOf_eq_some :
    g.leaseOf id = some leaseId ↔
      ∃ record, g.tasks[id]? = some record ∧ record.status.leaseId = some leaseId := by
  rw [leaseOf, Option.bind_eq_some_iff]

/-- A lease that is current after a call was current before or is handed out by
it. -/
theorem Kept.leaseOf_after (kept : g.Kept) (held : (g.after call).leaseOf id = some leaseId) :
    g.leaseOf id = some leaseId ∨ ∃ record, (g.after call).tasks[id]? = some record ∧
      g.startedLease (id, record) = some leaseId := by
  obtain ⟨next, there, running⟩ := leaseOf_eq_some.1 held
  obtain ⟨record, found⟩ := kept.known_before call there
  obtain ⟨next', there', moves⟩ := kept.moves call found
  rw [there, Option.some.injEq] at there'
  subst there'
  rcases moves.lease leaseId running with grows | kept
  · refine .inr ⟨next, there, ?_⟩
    rw [startedLease]
    simp only [found]
    rw [if_pos grows]
    exact running
  · exact .inl (leaseOf_eq_some.2 ⟨record, found, kept⟩)

theorem mem_startedLeases {before after : TaskGraph} (found : after.tasks[id]? = some record)
    (started : before.startedLease (id, record) = some leaseId) :
    leaseId ∈ startedLeases before after :=
  List.mem_filterMap.2 ⟨(id, record), Lib.OrdMap.mem_toList.2 found, started⟩

/-- What `filterMap` keeps apart it has from one element. -/
theorem eq_of_nodup_filterMap {α β : Type} {f : α → Option β} {xs : List α} {x y : α} {b : β}
    (distinct : (xs.filterMap f).Nodup) (first : x ∈ xs) (second : y ∈ xs) (fx : f x = some b)
    (fy : f y = some b) : x = y := by
  induction xs with
  | nil => cases first
  | cons z xs ih =>
    have apart : ∀ w ∈ xs, f z = some b → f w ≠ some b := by
      intro w member fz fw
      rw [List.filterMap_cons, fz, List.nodup_cons] at distinct
      exact distinct.1 (List.mem_filterMap.2 ⟨w, member, fw⟩)
    have rest : (xs.filterMap f).Nodup := by
      rw [List.filterMap_cons] at distinct
      split at distinct
      · exact distinct
      · exact distinct.of_cons
    rcases List.mem_cons.1 first with rfl | here <;> rcases List.mem_cons.1 second with rfl | there
    · rfl
    · exact absurd fy (apart y there fx)
    · exact absurd fx (apart x here fy)
    · exact ih rest here there

/-- No two Tasks run under one lease. -/
def OneTask (g : TaskGraph) : Prop :=
  ∀ id other leaseId, g.leaseOf id = some leaseId → g.leaseOf other = some leaseId → id = other

/-- A lease that is current at the end of a trace was current at its start or is
handed out in it. -/
theorem Trace.leaseOf {g last : TaskGraph} (trace : Trace g steps last) (kept : g.Kept)
    (held : last.leaseOf id = some leaseId) :
    g.leaseOf id = some leaseId ∨ leaseId ∈ issuedLeases steps := by
  induction trace with
  | nil => exact .inl held
  | cons _ ih =>
    rcases ih (kept.after _) held with middle | later
    · rcases kept.leaseOf_after middle with first | ⟨record, there, started⟩
      · exact .inl first
      · exact .inr (List.mem_flatMap.2 ⟨_, List.mem_cons_self, mem_startedLeases there started⟩)
    · obtain ⟨s, member, issued⟩ := List.mem_flatMap.1 later
      exact .inr (List.mem_flatMap.2 ⟨s, List.mem_cons_of_mem _ member, issued⟩)

/-- One call keeps every lease with one Task, when what it hands out is new. -/
theorem OneTask.after (one : OneTask g) (kept : g.Kept)
    (distinct : (startedLeases g (g.after call)).Nodup)
    (fresh : ∀ id leaseId, g.leaseOf id = some leaseId →
      leaseId ∉ startedLeases g (g.after call)) : OneTask (g.after call) := by
  intro id other leaseId first second
  rcases kept.leaseOf_after first with before | ⟨record, there, started⟩ <;>
    rcases kept.leaseOf_after second with before' | ⟨record', there', started'⟩
  · exact one id other leaseId before before'
  · exact absurd (mem_startedLeases there' started') (fresh id leaseId before)
  · exact absurd (mem_startedLeases there started) (fresh other leaseId before')
  · exact congrArg Prod.fst (eq_of_nodup_filterMap distinct (Lib.OrdMap.mem_toList.2 there)
      (Lib.OrdMap.mem_toList.2 there') started started')

theorem Trace.oneTask {g last : TaskGraph} (trace : Trace g steps last) (kept : g.Kept)
    (one : OneTask g) (distinct : (issuedLeases steps).Nodup)
    (fresh : ∀ id leaseId, g.leaseOf id = some leaseId → leaseId ∉ issuedLeases steps) :
    OneTask last := by
  induction trace with
  | nil => exact one
  | @cons g last made steps rest ih =>
    rw [issuedLeases, List.flatMap_cons, List.nodup_append'] at distinct
    obtain ⟨own, later, apart⟩ := distinct
    have first : ∀ id leaseId, g.leaseOf id = some leaseId →
        leaseId ∉ startedLeases g (g.after made.call) := fun id leaseId held member =>
      fresh id leaseId held (List.mem_flatMap.2 ⟨_, List.mem_cons_self, member⟩)
    refine ih (kept.after _) (one.after kept own first) later fun id leaseId held member => ?_
    rcases kept.leaseOf_after held with before | ⟨record, there, started⟩
    · obtain ⟨s, among, issued⟩ := List.mem_flatMap.1 member
      exact fresh id leaseId before
        (List.mem_flatMap.2 ⟨s, List.mem_cons_of_mem _ among, issued⟩)
    · exact apart (mem_startedLeases there started) member

/-! ## Fencing -/

/-- A call that settles a Task leaves it terminal. -/
theorem Kept.settled_after {g next : TaskGraph} (kept : g.Kept)
    (settles : call.settles = some (taskId, leaseId)) (performed : g.perform call = .ok next) :
    ∃ record, next.tasks[taskId]? = some record ∧ record.status.isTerminal = true := by
  have applied : ∃ mutation mutations, mutation.id = taskId ∧
      mutation.status.isTerminal = true ∧
      g.applyTaskMutations (mutation :: mutations) = .ok next := by
    cases call with
    | complete id lease nowMs completion =>
      cases settles
      replace performed := rest_ok performed
      obtain ⟨_, _, performed⟩ := bind_eq_ok.1 performed
      obtain ⟨attempts, _, performed⟩ := bind_eq_ok.1 performed
      exact ⟨⟨taskId, .completed completion, attempts, none⟩, [], rfl, rfl, performed⟩
    | fail id lease nowMs reason =>
      cases settles
      replace performed := rest_ok performed
      obtain ⟨_, _, performed⟩ := bind_eq_ok.1 performed
      obtain ⟨attempts, _, performed⟩ := bind_eq_ok.1 performed
      exact ⟨⟨taskId, .failed reason, attempts, none⟩, _, rfl, rfl, performed⟩
    | _ => cases settles
  obtain ⟨mutation, mutations, rfl, terminal, applied⟩ := applied
  obtain ⟨written, writes, rfl, _, _⟩ := applyTaskMutations_eq_ok kept.charged applied
  obtain ⟨before, _, after⟩ := writes.get?_of_named List.mem_cons_self
  exact ⟨_, after, terminal⟩

theorem leaseOf_of_terminal (found : g.tasks[id]? = some record)
    (terminal : record.status.isTerminal = true) :
    g.leaseOf id = none := by
  rw [leaseOf, found, Option.bind_some]
  cases status : record.status with
  | running =>
    rw [status] at terminal
    cases terminal
  | _ => rfl

theorem fence_of_settles (settles : call.settles = some (taskId, leaseId)) :
    ∃ nowMs, call.fence = some (taskId, leaseId, nowMs) := by
  cases call with
  | complete => cases settles; exact ⟨_, rfl⟩
  | fail => cases settles; exact ⟨_, rfl⟩
  | _ => cases settles

theorem settles_of_completes (completes : call.completes = some taskId) :
    ∃ leaseId, call.settles = some (taskId, leaseId) := by
  cases call with
  | complete => cases completes; exact ⟨_, rfl⟩
  | _ => cases completes

/-- A fenced step that is accepted is made with the lease its Task runs under. -/
theorem Step.leaseOf_of_accepted {s : Step} {nowMs : UInt64}
    (fenced : s.made.call.fence = some (taskId, leaseId, nowMs)) (accepted : s.Accepted) :
    s.graph.leaseOf taskId = some leaseId := by
  obtain ⟨next, performed⟩ := accepted
  obtain ⟨record, lease, found, running, rfl, _⟩ := fence_held fenced performed
  exact leaseOf_eq_some.2 ⟨record, found, by rw [running]; rfl⟩

/-- A construction runs nothing. -/
theorem leaseOf_new {definitions : List TaskDefinition} (built : TaskGraph.new definitions = .ok g)
    (id : TaskId) : g.leaseOf id = none := by
  obtain ⟨_, tasks, inserted, _, _, _, rfl⟩ := new_eq_ok.1 built
  show (tasks[id]?).bind (fun record => record.status.leaseId) = none
  cases found : tasks[id]? with
  | none => rfl
  | some record =>
    obtain ⟨_, _, _, rfl⟩ := (get?_of_inserted inserted).1 found
    rfl

namespace Run

variable {steps before between rest : List Step} {g : TaskGraph} {s t : Step}

/-- A run has kept what its graphs carry up to any step. -/
theorem kept (run : Run steps g) (parts : steps = before ++ s :: rest) : s.graph.Kept := by
  obtain ⟨definitions, start, built, trace⟩ := run
  subst parts
  exact trace.split.1.kept (new_sane built).toKept

variable {leaseId : TaskLeaseId} {id : TaskId}

/-- A lease that is current at a step was handed out before it. -/
theorem issued_of_leaseOf (run : Run steps g) (parts : steps = before ++ s :: rest)
    (held : s.graph.leaseOf id = some leaseId) :
    leaseId ∈ issuedLeases before := by
  obtain ⟨definitions, start, built, trace⟩ := run
  subst parts
  refine (trace.split.1.leaseOf (new_sane built).toKept held).resolve_left fun early => ?_
  rw [leaseOf_new built] at early
  cases early

theorem oneTask (run : Run steps g) (parts : steps = before ++ s :: rest)
    (distinct : (issuedLeases steps).Nodup) : OneTask s.graph := by
  obtain ⟨definitions, start, built, trace⟩ := run
  subst parts
  rw [issuedLeases, List.flatMap_append, List.nodup_append'] at distinct
  refine trace.split.1.oneTask (new_sane built).toKept ?_ distinct.1 ?_
  · intro id other leaseId held
    rw [leaseOf_new built] at held
    cases held
  · intro id leaseId held
    rw [leaseOf_new built] at held
    cases held

/-- The part of a run from one step to a later one. -/
theorem between_trace (run : Run steps g) (parts : steps = before ++ s :: (between ++ t :: rest)) :
    Trace s.graph (s :: between) t.graph := by
  obtain ⟨definitions, start, built, trace⟩ := run
  subst parts
  have tail := trace.split.2
  rw [← List.cons_append] at tail
  exact tail.split.1

/-- **A lease does not come back.**  A lease current at a later step was already
current, under the same Task, at every step since it was. -/
theorem leaseOf_between (run : Run steps g) (parts : steps = before ++ s :: (between ++ t :: rest))
    (distinct : (issuedLeases steps).Nodup) (used : leaseId ∈ issuedLeases before)
    (later : t.graph.leaseOf id = some leaseId) : s.graph.leaseOf id = some leaseId := by
  refine ((run.between_trace parts).leaseOf (run.kept parts) later).resolve_right fun again => ?_
  rw [parts, ← List.cons_append, issuedLeases, List.flatMap_append, List.flatMap_append,
    List.nodup_append'] at distinct
  exact distinct.2.2 used (List.mem_append_left _ again)

/-- A Task that a step settles is settled at every later step. -/
theorem settled_later (run : Run steps g) (parts : steps = before ++ s :: (between ++ t :: rest))
    (accepted : s.Accepted) (settles : s.made.call.settles = some (id, leaseId)) :
    t.graph.leaseOf id = none := by
  have kept := run.kept parts
  have rest := run.between_trace parts
  obtain ⟨next, performed⟩ := accepted
  obtain ⟨record, found, terminal⟩ := kept.settled_after settles performed
  have reached : s.graph.after s.made.call = next := by
    unfold TaskGraph.after
    rw [performed]
  obtain ⟨graph, made⟩ := s
  cases rest with
  | cons rest =>
    rw [reached] at rest
    obtain ⟨later, there, same, _⟩ := rest.later (reached ▸ kept.after made.call) id record found
    rw [same terminal] at there
    exact leaseOf_of_terminal there terminal

/-- A Task is settled once. -/
theorem task_settled_once (run : Run steps g)
    (parts : steps = before ++ s :: (between ++ t :: rest)) (accepted : s.Accepted)
    {leaseId leaseId' : TaskLeaseId} (settles : s.made.call.settles = some (id, leaseId))
    (again : t.Accepted) (settles' : t.made.call.settles = some (id, leaseId')) : False := by
  obtain ⟨nowMs, fenced⟩ := fence_of_settles settles'
  have held := Step.leaseOf_of_accepted fenced again
  rw [run.settled_later parts accepted settles] at held
  cases held

/-- A lease settles one Task, once. -/
theorem settled_once (run : Run steps g) (parts : steps = before ++ s :: (between ++ t :: rest))
    (distinct : (issuedLeases steps).Nodup) (accepted : s.Accepted) {id other : TaskId}
    (settles : s.made.call.settles = some (id, leaseId)) (again : t.Accepted)
    (settles' : t.made.call.settles = some (other, leaseId)) : False := by
  obtain ⟨_, fenced⟩ := fence_of_settles settles
  obtain ⟨_, fenced'⟩ := fence_of_settles settles'
  have held := Step.leaseOf_of_accepted fenced accepted
  have later := Step.leaseOf_of_accepted fenced' again
  have used := run.issued_of_leaseOf parts held
  have earlier := run.leaseOf_between parts distinct used later
  obtain rfl := run.oneTask parts distinct id other leaseId held earlier
  exact run.task_settled_once parts accepted settles again settles'

/-- A lease that a Task has lost is not current at any later step. -/
theorem not_current_again (run : Run steps g)
    (parts : steps = before ++ s :: (between ++ t :: rest)) (distinct : (issuedLeases steps).Nodup)
    (held : s.graph.leaseOf id = some leaseId) {late : Step} (member : late ∈ t :: rest)
    (again : late.graph.leaseOf id = some leaseId) : t.graph.leaseOf id = some leaseId := by
  rcases List.mem_cons.1 member with rfl | after
  · exact again
  · obtain ⟨middle, last, rfl⟩ := List.append_of_mem after
    have used : leaseId ∈ issuedLeases (before ++ s :: between) := by
      rw [issuedLeases, List.flatMap_append]
      exact List.mem_append_left _ (run.issued_of_leaseOf parts held)
    have apart : steps = (before ++ s :: between) ++ t :: (middle ++ late :: last) := by
      rw [parts, List.append_assoc, List.cons_append]
    exact run.leaseOf_between apart distinct used again

/-- What holds of any step and any later one holds of the run's steps in pairs. -/
theorem pairwise_of {holds : Step → Step → Prop} (steps : List Step)
    (each : ∀ before s between t rest, steps = before ++ s :: (between ++ t :: rest) →
      holds s t) : steps.Pairwise holds := by
  induction steps with
  | nil => exact .nil
  | cons s steps ih =>
    refine List.pairwise_cons.2 ⟨fun t member => ?_, ih fun before s' between t rest parts => ?_⟩
    · obtain ⟨between, rest, rfl⟩ := List.append_of_mem member
      exact each [] s between t rest rfl
    · subst parts
      exact each (s :: before) s' between t rest rfl

end Run

/-- **Fencing.**  In every run a settled Task stays as it is and no attempt counter
falls, and a heartbeat or settlement that is accepted names the current unexpired
lease.  When no lease identity is generated twice, a lease that is lost moves
nothing any more and no two settlements carry one lease.  A Task is completed
once. -/
theorem lease_fencing {steps : List Step} {g : TaskGraph} (run : Run steps g) :
    (graphs steps g).Pairwise Later ∧
    (∀ s ∈ steps, s.Accepted → ∀ taskId leaseId nowMs,
      s.made.call.fence = some (taskId, leaseId, nowMs) →
      ∃ record lease, s.graph.tasks[taskId]? = some record ∧ record.status = .running lease ∧
        lease.id = leaseId ∧ nowMs < lease.expiresAtMs) ∧
    ((issuedLeases steps).Nodup →
      (∀ before s between t rest taskId leaseId,
        steps = before ++ s :: (between ++ t :: rest) →
        s.graph.leaseOf taskId = some leaseId → t.graph.leaseOf taskId ≠ some leaseId →
        ∀ late ∈ t :: rest, ∀ nowMs, late.made.call.fence = some (taskId, leaseId, nowMs) →
          ¬ late.Accepted ∧ late.after = late.graph) ∧
      steps.Pairwise fun s t => s.Accepted → t.Accepted → ∀ taskId other leaseId,
        s.made.call.settles = some (taskId, leaseId) →
        t.made.call.settles ≠ some (other, leaseId)) ∧
    steps.Pairwise fun s t => s.Accepted → t.Accepted → ∀ taskId,
      s.made.call.completes = some taskId → t.made.call.completes ≠ some taskId := by
  refine ⟨?_, ?_, fun distinct => ⟨?_, ?_⟩, ?_⟩
  · obtain ⟨definitions, start, built, trace⟩ := run
    exact trace.pairwise (new_sane built).toKept
  · intro s _ accepted taskId leaseId nowMs fenced
    obtain ⟨next, performed⟩ := accepted
    exact fence_held fenced performed
  · intro before s between t rest taskId leaseId parts held lost late member nowMs fenced
    have rejected : ¬ late.Accepted := by
      intro accepted
      exact lost (run.not_current_again parts distinct held member
        (Step.leaseOf_of_accepted fenced accepted))
    exact ⟨rejected, Step.after_of_rejected rejected⟩
  · refine Run.pairwise_of steps fun before s between t rest parts accepted again taskId other leaseId
      settles settles' => ?_
    exact run.settled_once parts distinct accepted settles again settles'
  · refine Run.pairwise_of steps fun before s between t rest parts accepted again taskId completes
      completes' => ?_
    obtain ⟨leaseId, settles⟩ := settles_of_completes completes
    obtain ⟨leaseId', settles'⟩ := settles_of_completes completes'
    exact run.task_settled_once parts accepted settles again settles'

/-- A Task is claimed again after its lease expired; the first worker then settles
it, once with the lease it lost and once with the lease of the other worker. -/
def sampleReclaimed : TaskGraph :=
  sampleClaimed.after (.claimReady (fun _ => "lease-2") "worker-2" 200 100 2)

def sampleCompleted : TaskGraph :=
  (sampleReclaimed.after (.complete "build" "lease-1" 50 ⟨"built", []⟩)).after
    (.complete "build" "lease-2" 250 ⟨"built", []⟩)

def sampleSteps : List Step :=
  [⟨sampleGraph, "worker-1", .claimReady (fun _ => "lease-1") "worker-1" 10 100 2⟩,
    ⟨sampleClaimed, "worker-2", .claimReady (fun _ => "lease-2") "worker-2" 200 100 2⟩,
    ⟨sampleReclaimed, "worker-1", .complete "build" "lease-1" 50 ⟨"built", []⟩⟩,
    ⟨sampleReclaimed.after (.complete "build" "lease-1" 50 ⟨"built", []⟩), "worker-1",
      .complete "build" "lease-2" 250 ⟨"built", []⟩⟩]

theorem sampleSteps_run : Run sampleSteps sampleCompleted :=
  ⟨sampleDefinitions, sampleGraph, sampleGraph_built, .cons (.cons (.cons (.cons (.nil _))))⟩

theorem lease_fencing_reclaimed :
    (issuedLeases sampleSteps).Nodup ∧
      (sampleReclaimed.perform (.complete "build" "lease-1" 50 ⟨"built", []⟩)).toOption = none ∧
      ∀ s ∈ sampleSteps.drop 2,
        s.made.call.fence = some ("build", "lease-1", 50) → ¬ s.Accepted := by
  have issued : issuedLeases sampleSteps = ["lease-1", "lease-2"] := by decide +kernel
  have held : sampleClaimed.leaseOf "build" = some "lease-1" := by decide +kernel
  have lost : sampleReclaimed.leaseOf "build" ≠ some "lease-1" := by decide +kernel
  have distinct : (issuedLeases sampleSteps).Nodup := by
    rw [issued]
    decide
  obtain ⟨_, _, once, _⟩ := lease_fencing sampleSteps_run
  refine ⟨distinct, by decide +kernel, fun s member fenced => ?_⟩
  exact ((once distinct).1 [_] _ [] _ _ "build" "lease-1" rfl held lost s member 50 fenced).1

/-- The lease is the whole fence: the worker that calls is not compared with the
owner of the lease. -/
theorem worker_unchecked :
    ¬ ∀ steps g, Run steps g → ∀ s ∈ steps, s.Accepted → ∀ taskId leaseId nowMs,
      s.made.call.fence = some (taskId, leaseId, nowMs) →
      ∃ record lease, s.graph.tasks[taskId]? = some record ∧ record.status = .running lease ∧
        lease.id = leaseId ∧ lease.owner = s.made.worker := by
  intro fenced
  let last := sampleReclaimed.after (.complete "build" "lease-1" 50 ⟨"built", []⟩)
  have accepted : (last.perform
      (.complete "build" "lease-2" 250 ⟨"built", []⟩)).toOption.isSome = true := by decide +kernel
  have status : (last.tasks["build"]?.map fun record => record.status) =
      some (.running ⟨"lease-2", "worker-2", 2, 300⟩) := by decide +kernel
  have performed : ∃ next, last.perform (.complete "build" "lease-2" 250 ⟨"built", []⟩) =
      .ok next := by
    cases made : last.perform (.complete "build" "lease-2" 250 ⟨"built", []⟩) with
    | ok next => exact ⟨next, rfl⟩
    | error e =>
      rw [made] at accepted
      cases accepted
  obtain ⟨record, lease, found, running, _, owned⟩ := fenced sampleSteps sampleCompleted
    sampleSteps_run ⟨last, "worker-1", .complete "build" "lease-2" 250 ⟨"built", []⟩⟩
    (by simp [sampleSteps, last]) performed "build" "lease-2" 250 rfl
  have same : last.tasks["build"]? = some record := found
  rw [same, Option.map_some, running, Option.some.injEq, TaskStatus.running.injEq] at status
  subst status
  exact absurd owned (by decide)

end TaskGraph

end YHarness.Orchestration

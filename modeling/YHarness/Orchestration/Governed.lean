/-
# YHarness.Orchestration.Governed -- once bound, every attempt is bound

A Task is governed once one of its attempts was claimed with an execution binding.
The evidence of a graph is only ever added to (`Trace.bindings`), names each attempt of a
Task once and every attempt from the first bound one to the current one, and no lease
twice.  A claim without a binding whose selection (`selected`) names a governed Task
fails as a whole, whatever the other Tasks of the batch are.
-/
import YHarness.Orchestration.Fencing

namespace YHarness.Orchestration

open YHarness.Lib YHarness.Kernel

set_option autoImplicit false

/-- The time, the number of claims and the capabilities of a claim without a binding. -/
def DomainCall.unbound : DomainCall → Option (UInt64 × Nat × TaskCapabilitySet)
  | .claimReady _ _ nowMs _ maximum => some (nowMs, maximum, ∅)
  | .claimReadyWithCapabilities _ _ nowMs _ maximum workerCapabilities =>
    some (nowMs, maximum, workerCapabilities)
  | .claimReadyWithBinding _ _ nowMs _ maximum none => some (nowMs, maximum, ∅)
  | .claimReadyWithBindingAndCapabilities _ _ nowMs _ maximum none workerCapabilities =>
    some (nowMs, maximum, workerCapabilities)
  | .claimReadyGoverned _ _ nowMs _ maximum none workerCapabilities =>
    some (nowMs, maximum, workerCapabilities)
  | _ => none

namespace TaskGraph

/-- The Tasks that a claim starts when it succeeds, in claim order. -/
def selected (g : TaskGraph) (nowMs : UInt64) (maximum : Nat)
    (workerCapabilities : TaskCapabilitySet) : List TaskId :=
  let expired := g.expiredTasks nowMs
  let blockedIds := (g.blockedMutations expired none).map (·.id)
  (inClaimOrder ((OrdMap.values g.tasks).filter fun record =>
    decide (record.definition.id ∉ blockedIds) &&
      (record.status == .pending || decide (record.definition.id ∈ expired)) &&
      TaskCapabilitySet.satisfies workerCapabilities record.definition.requiredCapabilities &&
      g.dependenciesCompleted record)).take maximum

/-! ## What a claim without a binding does -/

variable {executionBinding : Option ExecutionBinding} {g next : TaskGraph}
  {workerCapabilities : TaskCapabilitySet} {generate : TaskId → TaskLeaseId}

theorem claimTask_tasks {g : TaskGraph} (keyed : g.Keyed) {owner : String}
    {nowMs expiresAtMs : UInt64} {ready : List TaskId} {claimed : List (TaskMutation × TaskClaim)}
    (starts : ready.mapM (g.claimTask generate owner nowMs expiresAtMs executionBinding) =
      .ok claimed) :
    (claimed.map (·.2)).map (fun claim => claim.task.id) = ready := by
  rw [mapM_eq_ok] at starts
  induction starts with
  | nil => rfl
  | @cons taskId started ready claimed first _ ih =>
    obtain ⟨record, found, first⟩ := bind_eq_ok.1 first
    replace first := rest_ok first
    cases first
    have named := keyed taskId record (orError_eq_ok.1 found)
    show record.definition.id :: _ = _
    rw [named, ih]

/-- A claim that succeeds starts the selected Tasks; without a binding none of them is
governed. -/
theorem claimReadyGoverned_selected (keyed : g.Keyed) {owner : String}
    {nowMs leaseDurationMs : UInt64} {maximum : Nat} {claims : List TaskClaim} {changed : Bool}
    (performed : g.claimReadyGoverned generate owner nowMs leaseDurationMs maximum
      executionBinding workerCapabilities = .ok (next, claims, changed)) :
    claims.map (fun claim => claim.task.id) = g.selected nowMs maximum workerCapabilities ∧
      (executionBinding = none → ∀ id ∈ g.selected nowMs maximum workerCapabilities,
        g.boundAttempts id = []) := by
  rw [claimReadyGoverned] at performed
  iterate 6 replace performed := rest_ok performed
  obtain ⟨governed, performed⟩ := seq_eq_ok.1 performed
  obtain ⟨released, _, performed⟩ := bind_eq_ok.1 performed
  obtain ⟨claimed, starts, performed⟩ := bind_eq_ok.1 performed
  obtain ⟨result, _, ended⟩ := bind_eq_ok.1 performed
  cases ended
  constructor
  · exact claimTask_tasks keyed starts
  · rintro rfl id chosen
    rw [rejectIf_eq_ok, Option.isNone_none, Bool.true_and, List.any_eq_false] at governed
    rw [List.eq_nil_iff_forall_not_mem]
    intro attempt bound
    obtain ⟨evidence, recorded, task, _⟩ := mem_boundAttempts.1 bound
    apply governed id chosen
    rw [List.any_eq_true]
    exact ⟨evidence, recorded, by simpa using task⟩

/-- A call that claims without a binding is a governed claim without one. -/
theorem perform_unbound {call : DomainCall} {nowMs : UInt64} {maximum : Nat}
    (unbound : call.unbound = some (nowMs, maximum, workerCapabilities))
    (performed : g.perform call = .ok next) :
    ∃ generate owner leaseDurationMs claims changed, g.claimReadyGoverned generate owner nowMs
      leaseDurationMs maximum none workerCapabilities = .ok (next, claims, changed) := by
  have claims : ∀ {generate owner leaseDurationMs capabilities},
      (g.claimReadyWithBindingAndCapabilities generate owner nowMs leaseDurationMs maximum none
        capabilities >>= fun claimed => .ok claimed.1) = .ok next →
      ∃ claims changed, g.claimReadyGoverned generate owner nowMs leaseDurationMs maximum none
        capabilities = .ok (next, claims, changed) := by
    intro _ _ _ _ performed
    obtain ⟨⟨after, claims⟩, claimed, ended⟩ := bind_eq_ok.1 performed
    cases ended
    obtain ⟨⟨after, claims, changed⟩, claimed, ended⟩ := bind_eq_ok.1 claimed
    cases ended
    exact ⟨claims, changed, claimed⟩
  cases call with
  | claimReady generate owner _ leaseDurationMs
  | claimReadyWithCapabilities generate owner _ leaseDurationMs =>
    cases unbound
    exact ⟨generate, owner, leaseDurationMs, claims performed⟩
  | claimReadyWithBinding generate owner _ leaseDurationMs _ executionBinding
  | claimReadyWithBindingAndCapabilities generate owner _ leaseDurationMs _ executionBinding =>
    cases executionBinding <;> cases unbound
    exact ⟨generate, owner, leaseDurationMs, claims performed⟩
  | claimReadyGoverned generate owner _ leaseDurationMs _ executionBinding =>
    cases executionBinding <;> cases unbound
    obtain ⟨⟨after, claims, changed⟩, claimed, ended⟩ := bind_eq_ok.1 performed
    cases ended
    exact ⟨generate, owner, leaseDurationMs, claims, changed, claimed⟩
  | _ => cases unbound

/-! ## Evidence is kept -/

theorem Writes.bindings {mutations : List TaskMutation} (writes : Writes g mutations next) :
    g.attemptBindings <+: next.attemptBindings := by
  induction writes with
  | nil g => exact List.prefix_refl _
  | @cons g next mutation rest _ _ _ ih =>
    rw [writeMutation_attemptBindings] at ih
    exact (List.prefix_append _ _).trans ih

theorem Kept.bindings {g : TaskGraph} (kept : g.Kept) (call : DomainCall) :
    g.attemptBindings <+: (g.after call).attemptBindings := by
  unfold TaskGraph.after
  split
  · rename_i next performed
    rcases perform_cases kept.intact.keyed performed with ⟨mutations, _, applied⟩ |
      ⟨message, sends, _⟩
    · obtain ⟨written, writes, rfl, _⟩ := applyTaskMutations_eq_ok kept.charged applied
      exact writes.bindings
    · obtain rfl := sends.after
      exact List.prefix_refl _
  · exact List.prefix_refl _

/-- No call of a run removes evidence. -/
theorem Trace.bindings {g last : TaskGraph} {steps : List Step} (trace : Trace g steps last)
    (kept : g.Kept) : g.attemptBindings <+: last.attemptBindings := by
  induction trace with
  | nil => exact List.prefix_refl _
  | cons _ ih => exact (kept.bindings _).trans (ih (kept.after _))

/-- The evidence of one Task names each attempt once. -/
theorem Governed.nodup_boundAttempts {g : TaskGraph} (governed : g.Governed) (id : TaskId) :
    (g.boundAttempts id).Nodup := by
  rw [boundAttempts, List.Nodup, List.pairwise_map, List.pairwise_filter]
  refine governed.distinct.imp ?_
  intro earlier later apart first second same
  rw [beq_iff_eq] at first second
  exact apart ⟨first.trans second.symm, UInt32.toNat_inj.1 same⟩

/-- **Governed attempts.**  In every reachable graph, and in every graph that further calls
lead to, each attempt of a Task from a bound one on is bound, once, by a lease of its own.
A claim without a binding that would start a governed Task fails and leaves the graph as it
was. -/
theorem governed_attempts {assumed : TaskGraph → DomainCall → Prop} {g : TaskGraph}
    (reached : Reachable assumed g) :
    (∀ steps last, Trace g steps last → g.attemptBindings <+: last.attemptBindings ∧
      ∀ evidence ∈ g.attemptBindings, ∃ record, last.tasks[evidence.taskId]? = some record ∧
        evidence.attempt.toNat ≤ record.attempts.toNat ∧
        ∀ attempt, evidence.attempt.toNat ≤ attempt → attempt ≤ record.attempts.toNat →
          attempt ∈ last.boundAttempts evidence.taskId) ∧
    (∀ id, (g.boundAttempts id).Nodup) ∧
    (g.attemptBindings.map fun evidence => evidence.leaseId).Nodup ∧
    ∀ call nowMs maximum workerCapabilities,
      call.unbound = some (nowMs, maximum, workerCapabilities) →
      (∃ id ∈ g.selected nowMs maximum workerCapabilities, g.boundAttempts id ≠ []) →
      (∃ e, g.perform call = .error e) ∧ g.after call = g := by
  have kept := reached.kept
  refine ⟨fun steps last trace => ⟨trace.bindings kept, fun evidence recorded => ?_⟩,
    kept.intact.governed.nodup_boundAttempts, kept.intact.governed.leases,
    fun call nowMs maximum workerCapabilities unbound chosen => ?_⟩
  · have later := (trace.kept kept).intact.governed
    have still := (trace.bindings kept).subset recorded
    obtain ⟨record, found, within⟩ := later.within evidence still
    exact ⟨record, found, within, later.contiguous evidence still record found⟩
  · have fails : ∃ e, g.perform call = .error e := by
      cases performed : g.perform call with
      | error e => exact ⟨e, rfl⟩
      | ok next =>
        obtain ⟨_, _, _, _, _, claimed⟩ := perform_unbound unbound performed
        obtain ⟨id, member, governed⟩ := chosen
        exact absurd ((claimReadyGoverned_selected kept.intact.keyed claimed).2 rfl id member)
          governed
    obtain ⟨e, failed⟩ := fails
    refine ⟨⟨e, failed⟩, ?_⟩
    unfold TaskGraph.after
    rw [failed]

section Sample

def sampleBinding : ExecutionBinding :=
  ⟨"issuer", "builder", "1.0.0", "".pushn 'a' 64, "".pushn 'b' 64, 1, none⟩

/-- The first Task is claimed with a binding and its lease runs out. -/
def sampleBound : TaskGraph :=
  sampleGraph.after (.claimReadyWithBinding (fun _ => "lease-1") "worker-1" 10 100 2
    (some sampleBinding))

/-- The expired Task cannot be claimed again without a binding. -/
theorem governed_attempts_bound :
    sampleBound.selected 200 2 ∅ = ["build"] ∧ sampleBound.boundAttempts "build" = [1] ∧
      sampleBound.after (.claimReady (fun _ => "lease-2") "worker-2" 200 100 2) = sampleBound := by
  have chosen : sampleBound.selected 200 2 ∅ = ["build"] := by decide +kernel
  have bound : sampleBound.boundAttempts "build" = [1] := by decide +kernel
  have reached : Reachable (fun _ _ => True) sampleBound :=
    .call (.new sampleGraph_built) (.claimReadyWithBinding (fun _ => "lease-1") "worker-1" 10 100 2
      (some sampleBinding)) trivial
  obtain ⟨_, _, _, refused⟩ := governed_attempts reached
  refine ⟨chosen, bound, (refused _ 200 2 ∅ rfl ⟨"build", ?_, ?_⟩).2⟩
  · rw [chosen]
    exact List.mem_singleton_self _
  · rw [bound]
    exact List.cons_ne_nil _ _

end Sample

end TaskGraph

end YHarness.Orchestration

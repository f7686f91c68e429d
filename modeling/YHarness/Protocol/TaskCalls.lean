/-
# YHarness.Protocol.TaskCalls -- the calls of the Task service, each as one commit

Each call of the service is followed through its steps once: `commit_ensures` is what a
swap of a loaded graph leaves, `mutateAttempt_ensures` and `claimAttempt_ensures` are one
round of the retry loops, and `handle_ensures` is every request.  The number of rounds does
not matter: a round that meets a conflict has committed nothing, so the next one starts
where it did.
-/
import YHarness.Protocol.TaskWorld

namespace YHarness.Protocol

open YHarness.Lib YHarness.Kernel YHarness.Orchestration

set_option autoImplicit false

/-! ## What a request has done -/

/-- A request has committed one revision, on top of what its key held. -/
def CommitsOnce (call : Nat) (request : TaskRequest) (answer : TaskAnswer)
    (events : List (TaskEvent Nat)) : Prop :=
  ∃ before snapshot after, events = before ++ .committed call snapshot :: after ∧
    committedBy call events = [snapshot] ∧
    snapshot.key = storageKey request.graphId request.authority.tenantId ∧
    Commits request (heldAfter before snapshot.key) snapshot answer

/-- A request is a claim that changed nothing in a graph it was handed. -/
def ClaimsNothing (call : Nat) (request : TaskRequest) (answer : TaskAnswer)
    (events : List (TaskEvent Nat)) : Prop :=
  committedBy call events = [] ∧
    ∃ (snapshot : TaskGraphSnapshot) (worker : String) (leaseDurationMs nowMs : UInt64)
      (maximum : Nat) (generate : TaskId → TaskLeaseId),
      .handed call snapshot ∈ events ∧
      snapshot.key = storageKey request.graphId request.authority.tenantId ∧
      request.operation = .claim worker leaseDurationMs maximum ∧
      snapshot.graph.claimReadyGoverned generate worker nowMs leaseDurationMs maximum none ∅ =
        .ok (snapshot.graph, [], false) ∧
      answer = .claimed snapshot.revision []

/-- The leases a call returns were generated for it. -/
def Leased (call : Nat) : TaskAnswer → TaskServiceWorld → Prop
  | .claimed _ claims, w => (claims.map fun claim => claim.lease.id).Nodup ∧
      ∀ claim ∈ claims, (call, claim.lease.id) ∈ w.generated
  | _, _ => True

/-- What a finished request has done. -/
def Settled (call : Nat) (request : TaskRequest) :
    Except HarnessError TaskAnswer → TaskServiceWorld → Prop
  | .ok answer, w => (CommitsOnce call request answer w.tasks.events ∨
      ClaimsNothing call request answer w.tasks.events) ∧ Leased call answer w
  | .error _, w => committedBy call w.tasks.events = []

section Calls

variable {call : Nat} {request : TaskRequest} {w v : TaskServiceWorld} {α : Type}

theorem Leased.later {answer : TaskAnswer} (leased : Leased call answer w)
    (keeps : Keeps call w v) : Leased call answer v := by
  cases answer with
  | claimed revision claims =>
    exact ⟨leased.1, fun claim member => keeps.generated (leased.2 claim member)⟩
  | _ => trivial

/-- What a request has done, the others do not undo. -/
theorem Settled.later {outcome : Except HarnessError TaskAnswer}
    (settled : Settled call request outcome w) (keeps : Keeps call w v) :
    Settled call request outcome v := by
  cases outcome with
  | error error => exact keeps.committedBy.trans settled
  | ok answer =>
    obtain ⟨made, leased⟩ := settled
    refine ⟨?_, leased.later keeps⟩
    rcases made with ⟨before, snapshot, after, parts, once, key, commits⟩ | ⟨quiet, snapshot,
      worker, leaseDurationMs, nowMs, maximum, generate, handed, rest⟩
    · obtain ⟨more, added, _⟩ := keeps.events
      refine .inl ⟨before, snapshot, after ++ more, ?_, keeps.committedBy.trans once, key, commits⟩
      rw [added, parts, List.append_assoc, List.cons_append]
    · exact .inr ⟨keeps.committedBy.trans quiet, snapshot, worker, leaseDurationMs, nowMs, maximum,
        generate, keeps.mem handed, rest⟩

/-! ## Loading, waiting and swapping -/

variable {answers : UInt64 × α → TaskAnswer} {snapshot : TaskGraphSnapshot} {graph : TaskGraph}
  {definitions : List TaskDefinition} {known : List (Nat × TaskLeaseId)}
  {authority : AuthorityContext} {access : TaskWorkerAccess}

theorem load_ensures {graphId : TaskGraphId} (quiet : committedBy call w.tasks.events = []) :
    Ensures (taskService.setting call) (taskService.ok call)
      (fun outcome v => committedBy call v.tasks.events = [] ∧ ∀ snapshot, outcome = .ok snapshot →
        Loaded call snapshot v ∧ snapshot.Sound (storageKey graphId authority.tenantId))
      (load graphId authority).run w := by
  refine Ensures.callBind fun u relied => ⟨nofun, fun reply v executes => ?_⟩
  have still : committedBy call u.tasks.events = [] := relied.1.committedBy.trans quiet
  obtain ⟨unmoved, loaded⟩ := load_step relied.2 still executes.1
  refine Ensures.checkBind (fun e _ => ⟨unmoved, nofun⟩) fun held replied => ?_
  subst replied
  refine Ensures.check ⟨unmoved, fun snapshot found => ?_⟩
  rw [orError_eq_ok] at found
  exact loaded snapshot (by rw [found])

/-- **A swap** of a loaded snapshot, with the output of the change; leases stay generated. -/
theorem commit_ensures {output : α} (loaded : Loaded call snapshot w)
    (generated : known ⊆ w.generated) :
    Ensures (taskService.setting call) (taskService.ok call)
      (fun outcome v => match outcome with
        | .ok (.ok answer) => answer.2 = output ∧ Replaced call snapshot graph answer.1 v ∧
            known ⊆ v.generated
        | _ => committedBy call v.tasks.events = [])
      (commit snapshot graph output authority).run w := by
  refine Ensures.callBind fun u relied => ⟨?_, fun reply v executes => ?_⟩
  · rintro _ _ ⟨⟩
    exact ⟨snapshot, relied.1.mem loaded.handed, rfl⟩
  · rcases swap_step relied.2 (loaded.later relied.1) executes.1 with ⟨e, rfl, quiet⟩ |
      ⟨revision, rfl, replaced⟩
    · refine Ensures.checkBind (fun e _ => quiet) fun saved conflict => ?_
      have failed : ∃ e', saved = .error e' := by
        cases e with
        | orchestrationConflict graphId expected actual => exact ⟨_, (ok_eq_ok.1 conflict)⟩
        | _ => cases conflict
      obtain ⟨e', rfl⟩ := failed
      exact Ensures.check quiet
    · refine Ensures.checkBind (fun e failed => by cases failed) fun saved succeeded => ?_
      cases succeeded
      obtain ⟨⟨_, rfl⟩, _⟩ := executes
      exact Ensures.check ⟨rfl, replaced, fun _ member => relied.1.generated (generated member)⟩

/-- A replaced snapshot is the commit of a mutation. -/
theorem Replaced.commitsOnce {revision : UInt64} {answer : UInt64 → TaskAnswer}
    (replaced : Replaced call snapshot graph revision w)
    (key : snapshot.key = storageKey request.graphId request.authority.tenantId)
    (mutates : Mutates request.operation snapshot graph answer) :
    CommitsOnce call request (answer revision) w.tasks.events := by
  obtain ⟨once, ⟨before, after, parts, held⟩, counted⟩ := replaced
  refine ⟨before, _, after, parts, once, key, ?_⟩
  have onto : heldAfter before (TaskGraphSnapshot.key { snapshot with graph, revision }) =
      some snapshot := held
  rw [onto]
  exact .mutated mutates counted

/-! ## Rounds of the retry loops -/

/-- What a round leaves: an answer, or nothing committed. -/
def Round (call : Nat) (request : TaskRequest) (answers : α → TaskAnswer)
    (outcome : Except HarnessError (Except HarnessError α)) (w : TaskServiceWorld) : Prop :=
  match outcome with
  | .ok (.ok a) => Settled call request (.ok (answers a)) w
  | _ => committedBy call w.tasks.events = []

/-- A mutation of a loaded graph and its swap. -/
theorem round_ensures {output : α} (loaded : Loaded call snapshot w)
    (generated : known ⊆ w.generated)
    (key : snapshot.key = storageKey request.graphId request.authority.tenantId)
    (mutates : Mutates request.operation snapshot graph fun revision => answers (revision, output))
    (leased : ∀ revision v, known ⊆ v.generated → Leased call (answers (revision, output)) v) :
    Ensures (taskService.setting call) (taskService.ok call) (Round call request answers)
      (commit snapshot graph output request.authority).run w := by
  refine Ensures.mono (commit_ensures loaded generated) fun outcome v made => ?_
  rcases outcome with e | conflict | ⟨revision, changed⟩
  · exact made
  · exact made
  · obtain ⟨rfl, replaced, stillGenerated⟩ := made
    exact ⟨.inl (replaced.commitsOnce key mutates), leased revision v stillGenerated⟩

/-- **The retry loop.**  Rounds that meet a conflict leave nothing behind. -/
theorem rounds_ensures {answers : α → TaskAnswer}
    {attempt : TaskServiceM (Except HarnessError α)} {ended : HarnessError}
    (round : ∀ w, committedBy call w.tasks.events = [] →
      Ensures (taskService.setting call) (taskService.ok call) (Round call request answers)
        attempt.run w)
    (quiet : committedBy call w.tasks.events = []) :
    Ensures (taskService.setting call) (taskService.ok call)
      (fun outcome v => Settled call request (outcome.map answers) v)
      (TryTask.retry attempt ended maxTaskCasAttempts none).run w := by
  refine Ensures.retry (fun u still => ?_) (fun _ _ still => still) _ _ quiet
  refine Ensures.mono (round u still) fun outcome v made => ?_
  rcases outcome with e | conflict | a
  · exact made
  · exact made
  · exact made

/-- One round of a worker mutation. -/
theorem mutateAttempt_ensures
    {mutation : TaskGraph → UInt64 → TaskLease → TaskServiceM (TaskGraph × α)}
    (yields : ∀ snapshot nowMs lease v, Loaded call snapshot v →
      requireWorkerLease snapshot.graph access nowMs = .ok lease →
      Ensures (taskService.setting call) (taskService.ok call)
        (fun outcome v => Loaded call snapshot v ∧ ∀ mutated, outcome = .ok mutated →
          Mutates request.operation snapshot mutated.1 fun revision =>
            answers (revision, mutated.2))
        (mutation snapshot.graph nowMs lease).run v) (unleased : ∀ a v, Leased call (answers a) v)
    (quiet : committedBy call w.tasks.events = []) :
    Ensures (taskService.setting call) (taskService.ok call) (Round call request answers)
      (mutateAttempt request.graphId access request.authority mutation).run w := by
  refine Ensures.tryBind (load_ensures quiet) (fun _ _ failed => failed.1) fun snapshot u given => ?_
  obtain ⟨loaded, sound⟩ := given.2 snapshot rfl
  refine Ensures.callBind fun u' relied => ⟨nofun, fun nowMs v executes => ?_⟩
  obtain ⟨rfl, _⟩ := executes
  replace loaded := loaded.later relied.1
  refine Ensures.checkBind (fun _ _ => loaded.quiet) fun lease held => ?_
  refine Ensures.tryBind (yields snapshot nowMs lease _ loaded held)
    (fun _ _ failed => failed.1.quiet) fun mutated v' made => ?_
  have none : ([] : List (Nat × TaskLeaseId)) ⊆ v'.generated := List.nil_subset _
  exact round_ensures made.1 none sound.key (made.2 mutated rfl) fun revision v _ => unleased _ v

/-- One round of a claim. -/
theorem claimAttempt_ensures {worker : String} {leaseDurationMs : UInt64} {maximum : Nat}
    (operation : request.operation = .claim worker leaseDurationMs maximum)
    (quiet : committedBy call w.tasks.events = []) :
    Ensures (taskService.setting call) (taskService.ok call)
      (Round call request fun answer : UInt64 × List TaskClaim => .claimed answer.1 answer.2)
      (claimAttempt request.graphId worker leaseDurationMs maximum request.authority).run w := by
  refine Ensures.tryBind (load_ensures quiet) (fun _ _ failed => failed.1) fun snapshot u given => ?_
  obtain ⟨loaded, sound⟩ := given.2 snapshot rfl
  refine Ensures.callBind fun u' relied => ⟨nofun, fun nowMs v executes => ?_⟩
  obtain ⟨rfl, _⟩ := executes
  replace loaded := loaded.later relied.1
  refine Ensures.callBind fun u' relied => ⟨nofun, fun generate v executes => ?_⟩
  obtain ⟨⟨fresh, rfl⟩, _⟩ := executes
  have waiting := loaded.later relied.1
  refine Ensures.checkBind (fun _ _ => waiting.quiet) fun claimed performed => ?_
  obtain ⟨graph, claims, changed⟩ := claimed
  obtain ⟨⟨ready, distinct, among, leases⟩, unchanged⟩ :=
    TaskGraph.claimReadyGoverned_leases (TaskGraph.keyed_of_valid sound.integrity) performed
  cases changed with
  | false =>
    obtain ⟨rfl, rfl⟩ := unchanged rfl
    refine Ensures.check ⟨.inr ⟨waiting.quiet, snapshot, worker, leaseDurationMs, nowMs, maximum,
      generate, waiting.handed, sound.key, operation, performed, rfl⟩, List.nodup_nil, nofun⟩
  | true =>
    refine Ensures.checkBind (fun _ _ => waiting.quiet) fun _ _ => ?_
    have mutates : Mutates request.operation snapshot graph (.claimed · claims) := by
      rw [operation]
      exact .claim performed
    refine round_ensures ⟨waiting.quiet, waiting.handed⟩ (List.subset_append_right _ _) sound.key
      mutates fun revision v generated => ⟨?_, fun claim member => generated ?_⟩
    · rw [List.map_append, List.nodup_append', List.map_map] at fresh
      rw [leases]
      apply distinct.map_on
      intro id here other there same
      exact List.inj_on_of_nodup_map fresh.2.1 (among id here) (among other there) same
    · have named : claim.lease.id ∈ claims.map fun claim => claim.lease.id :=
        List.mem_map.2 ⟨claim, member, rfl⟩
      rw [leases] at named
      obtain ⟨id, here, same⟩ := List.mem_map.1 named
      exact List.mem_map.2 ⟨id, among id here, by rw [same]⟩

/-! ## Every request -/

/-- The answer of a call of the service is the answer of its request. -/
theorem answer_ensures {answers : α → TaskAnswer} {task : TaskServiceM α}
    (made : Ensures (taskService.setting call) (taskService.ok call)
      (fun outcome v => Settled call request (outcome.map answers) v) task.run w) :
    Ensures (taskService.setting call) (taskService.ok call) (Settled call request)
      (task >>= fun a => check (.ok (answers a))).run w :=
  Ensures.tryBind made (fun _ _ failed => failed) fun _ _ settled => Ensures.check settled

/-- A worker mutation, round after round. -/
theorem mutateWorker_ensures
    {mutation : TaskGraph → UInt64 → TaskLease → Except HarnessError (TaskGraph × α)}
    (mutates : ∀ (snapshot : TaskGraphSnapshot) nowMs lease mutated,
      requireWorkerLease snapshot.graph access nowMs = .ok lease →
      mutation snapshot.graph nowMs lease = .ok mutated →
      Mutates request.operation snapshot mutated.1 fun revision => answers (revision, mutated.2))
    (unleased : ∀ a v, Leased call (answers a) v) (quiet : committedBy call w.tasks.events = []) :
    Ensures (taskService.setting call) (taskService.ok call)
      (fun outcome v => Settled call request (outcome.map answers) v)
      (mutateWorker request.graphId access request.authority fun graph nowMs lease =>
        check (mutation graph nowMs lease)).run w := by
  refine rounds_ensures (fun u still => mutateAttempt_ensures ?_ unleased still) quiet
  intro snapshot nowMs lease v loaded held
  exact Ensures.check ⟨loaded, fun mutated performed =>
    mutates snapshot nowMs lease mutated held performed⟩

theorem u64TryFrom_eq_ok {error : HarnessError} {n : Nat} (small : n < UInt64.size) :
    u64TryFrom error n = .ok (UInt64.ofNat n) := by
  refine seq_eq_ok.2 ⟨?_, rfl⟩
  rw [rejectIf_decide]
  omega

/-- A constructed graph has a summary. -/
theorem summary_ok (graphId : TaskGraphId) (tenantId : Option String)
    (built : TaskGraph.new definitions = .ok graph) :
    ∃ answer, summary ⟨graphId, tenantId, 1, graph⟩ = .ok answer := by
  have sane := TaskGraph.new_sane built
  obtain ⟨sized, _⟩ := seq_eq_ok.1 sane.validateIntegrity
  rw [rejectIf_decide, not_lt] at sized
  have count : graph.tasks.size < UInt64.size := lt_of_le_of_lt sized (by decide)
  have limit : maxTaskGraphJsonBytes < UInt64.size := by decide
  have charge : graph.materializationChargeBytes < UInt64.size := by
    rw [sane.charged]
    exact lt_of_le_of_lt sane.fits limit
  have remaining : maxTaskGraphJsonBytes - graph.materializationChargeBytes < UInt64.size :=
    lt_of_le_of_lt (Nat.sub_le _ _) limit
  exact ⟨_, bind_eq_ok.2 ⟨_, u64TryFrom_eq_ok count, bind_eq_ok.2 ⟨_, u64TryFrom_eq_ok charge,
    bind_eq_ok.2 ⟨_, u64TryFrom_eq_ok remaining, rfl⟩⟩⟩⟩

theorem create_ensures (operation : request.operation = .create definitions)
    (quiet : committedBy call w.tasks.events = []) :
    Ensures (taskService.setting call) (taskService.ok call)
      (fun outcome v => Settled call request (outcome.map .created) v)
      (create request.graphId definitions request.authority).run w := by
  refine Ensures.checkBind (fun _ _ => quiet) fun graph built => ?_
  refine Ensures.callBind fun u relied => ⟨nofun, fun reply v executes => ?_⟩
  have still : committedBy call u.tasks.events = [] := relied.1.committedBy.trans quiet
  rcases create_step relied.2 still executes.1 with ⟨e, rfl, unmoved⟩ |
    ⟨snapshot, shape, rfl, once, events, fresh⟩
  · exact Ensures.checkBind (fun _ _ => unmoved) fun _ failed => by cases failed
  · refine Ensures.checkBind (fun _ failed => by cases failed) fun _ succeeded => ?_
    cases succeeded
    subst shape
    -- the summary of a constructed graph never fails, so nothing is committed in vain
    obtain ⟨answer, summarised⟩ := summary_ok request.graphId request.authority.tenantId built
    rw [summarised]
    refine Ensures.check ⟨.inl ⟨_, _, _, events, once, rfl, ?_⟩, trivial⟩
    rw [fresh]
    exact .created operation built summarised

theorem cancel_ensures {taskId : TaskId} {expectedRevision : UInt64} {reason : String}
    (operation : request.operation = .cancel taskId expectedRevision reason)
    (quiet : committedBy call w.tasks.events = []) :
    Ensures (taskService.setting call) (taskService.ok call)
      (fun outcome v => Settled call request (outcome.map .changed) v)
      (cancel request.graphId taskId expectedRevision reason request.authority).run w := by
  refine Ensures.tryBind (load_ensures quiet) (fun _ _ failed => failed.1) fun snapshot u given => ?_
  obtain ⟨loaded, sound⟩ := given.2 snapshot rfl
  refine Ensures.checkBind (fun _ _ => loaded.quiet) fun _ expected => ?_
  rw [rejectIf_bne] at expected
  refine Ensures.checkBind (fun _ _ => loaded.quiet) fun graph cancelled => ?_
  refine Ensures.callBind fun u' relied => ⟨?_, fun reply v executes => ?_⟩
  · rintro _ _ ⟨⟩
    exact ⟨snapshot, relied.1.mem loaded.handed, rfl⟩
  · rcases swap_step relied.2 (loaded.later relied.1) executes.1 with ⟨e, rfl, still⟩ |
      ⟨revision, rfl, replaced⟩
    · exact Ensures.checkBind (fun _ _ => still) fun saved failed => by cases failed
    · refine Ensures.checkBind (fun _ failed => by cases failed) fun saved succeeded => ?_
      cases succeeded
      have mutates : Mutates request.operation snapshot graph .changed := by
        rw [operation, ← expected]
        exact .cancel cancelled
      exact Ensures.check ⟨.inl (replaced.commitsOnce sound.key mutates), trivial⟩

/-- **Every request**, whatever the others do between its steps. -/
theorem handle_ensures (request : TaskRequest) (quiet : committedBy call w.tasks.events = []) :
    Ensures (taskService.setting call) (taskService.ok call) (Settled call request)
      request.handle.run w := by
  obtain ⟨graphId, authority, operation⟩ := request
  cases operation with
  | create definitions => exact answer_ensures (create_ensures rfl quiet)
  | claim worker leaseDurationMs maximum =>
    refine answer_ensures ?_
    refine Ensures.checkBind (fun _ _ => quiet) fun _ _ => ?_
    refine Ensures.checkBind (fun _ _ => quiet) fun _ _ => ?_
    exact rounds_ensures (fun u still => claimAttempt_ensures rfl still) quiet
  | heartbeat access leaseDurationMs =>
    refine answer_ensures ?_
    refine Ensures.checkBind (fun _ _ => quiet) fun _ _ => ?_
    exact mutateWorker_ensures (fun snapshot nowMs lease mutated held performed =>
      .heartbeat held performed) (fun _ _ => trivial) quiet
  | complete access completion =>
    refine answer_ensures ?_
    exact mutateWorker_ensures (fun snapshot nowMs lease mutated held performed =>
      .complete held performed) (fun _ _ => trivial) quiet
  | fail access reason =>
    refine answer_ensures ?_
    exact mutateWorker_ensures (fun snapshot nowMs lease mutated held performed =>
      .fail held performed) (fun _ _ => trivial) quiet
  | send access receiver body =>
    refine answer_ensures ?_
    refine rounds_ensures (fun u still => mutateAttempt_ensures ?_ (fun _ _ => trivial) still)
      quiet
    intro snapshot nowMs lease v loaded held
    refine Ensures.callBind fun u' relied => ⟨nofun, fun messageId v' executes => ?_⟩
    obtain ⟨rfl, _⟩ := executes
    exact Ensures.check ⟨loaded.later relied.1, fun mutated performed => .send held performed⟩
  | cancel taskId expectedRevision reason => exact answer_ensures (cancel_ensures rfl quiet)

end Calls

/-! ## Every run -/

/-- **Worker calls are made exactly once, and leases are exclusive.**  In every run of any
number of calls side by side, a call that failed has committed nothing and one that
succeeded has committed one revision, its mutation of what the key held, unless it is a
claim that changed nothing.  The coordinator holds what was committed, and no lease is
returned twice. -/
theorem worker_calls_exactly_once {store : TaskCoordinator}
    {s : Served TaskRequest TaskServiceCall TaskServiceReply TaskServiceWorld
      (Except HarnessError TaskAnswer)}
    (empty : store = .memory ∅ ∨ store = .sqlite ∅)
    (reached : Served.Reachable taskService (fun request => request.handle.run) (.empty store) s) :
    s.world.tasks.store.Holds (heldAfter s.world.tasks.events) ∧
    (∀ (call : Nat) (request : TaskRequest) (outcome : Except HarnessError TaskAnswer),
      s.tasks[call]? = some (request, .done outcome) →
      match outcome with
      | .error _ => committedBy call s.world.tasks.events = []
      | .ok answer => CommitsOnce call request answer s.world.tasks.events ∨
          ClaimsNothing call request answer s.world.tasks.events) ∧
    ∀ (call other : Nat) (request request' : TaskRequest) (revision revision' : UInt64)
      (claims claims' : List TaskClaim),
      s.tasks[call]? = some (request, .done (.ok (.claimed revision claims))) →
      s.tasks[other]? = some (request', .done (.ok (.claimed revision' claims'))) →
      (claims.map fun claim => claim.lease.id).Nodup ∧
        (call ≠ other → ∀ claim ∈ claims, ∀ claim' ∈ claims', claim.lease.id ≠ claim'.lease.id) := by
  have begins : taskService.inv (.empty store) := by
    refine ⟨?_, List.nodup_nil⟩
    rcases empty with rfl | rfl
    · exact .memory
    · exact .sqlite
  have ensured : Served.Ensured taskService (fun call request => Settled call request) s :=
    reached.ensured taskService_sound begins (fun _ => rfl)
      (fun _ _ _ _ _ settled keeps => settled.later keeps)
      (fun call request w _ quiet => handle_ensures request quiet)
  refine ⟨ensured.inv.1.consistent.holds, fun call request outcome ended => ?_, ?_⟩
  · have settled := ensured.ended ended
    cases outcome with
    | error error => exact settled
    | ok answer => exact settled.1
  · intro call other request request' revision revision' claims claims' first second
    obtain ⟨_, distinct, generated⟩ := ensured.ended first
    obtain ⟨_, _, generated'⟩ := ensured.ended second
    refine ⟨distinct, fun apart claim member claim' member' same => apart ?_⟩
    have one := List.inj_on_of_nodup_map ensured.inv.2 (generated claim member)
      (generated' claim' member') same
    exact (Prod.mk.inj one).1

section Sample

/-- What the clock shows and which identities are generated in a step. -/
structure Reading where
  nowMs : UInt64
  leases : TaskId → TaskLeaseId
  messageId : TaskMessageId

/-- The step of a call with a given reading. -/
def TaskServiceWorld.step (reading : Reading) (w : TaskServiceWorld) (call : Nat) :
    (c : TaskServiceCall) → Option (TaskServiceReply c × TaskServiceWorld)
  | .createAs graphId graph authority =>
    some ((w.tasks.store.createAs graphId graph authority).map Prod.fst,
      w.after call authority (.create graphId graph))
  | .loadAs graphId authority =>
    some (w.tasks.store.loadAs graphId authority, w.after call authority (.load graphId))
  | .compareAndSwapAs snapshot authority =>
    some ((w.tasks.store.compareAndSwapAs snapshot authority).map Prod.fst,
      w.after call authority (.swap snapshot))
  | .nowMs => some (reading.nowMs, w)
  | .generateLeases taskIds =>
    let generated := w.generated ++ taskIds.map fun taskId => (call, reading.leases taskId)
    if (generated.map Prod.snd).Nodup then some (reading.leases, { w with generated }) else none
  | .generateMessage => some (reading.messageId, w)

theorem TaskServiceWorld.step_executes (reading : Reading) (w : TaskServiceWorld) (call : Nat)
    (c : TaskServiceCall) (reply : TaskServiceReply c) (w' : TaskServiceWorld)
    (stepped : w.step reading call c = some (reply, w')) : w.Executes call c reply w' := by
  cases c with
  | createAs => cases stepped; exact ⟨rfl, rfl⟩
  | loadAs => cases stepped; exact ⟨rfl, rfl⟩
  | compareAndSwapAs => cases stepped; exact ⟨rfl, rfl⟩
  | nowMs => cases stepped; rfl
  | generateLeases taskIds =>
    unfold TaskServiceWorld.step at stepped
    dsimp only at stepped
    split at stepped
    · rename_i fresh
      cases stepped
      exact ⟨fresh, rfl⟩
    · cases stepped
  | generateMessage => cases stepped; rfl

/-- Readings whose generated leases begin with a letter of their own. -/
def sampleReading (letter : String) : Reading :=
  ⟨10, fun taskId => letter ++ taskId, letter⟩

def sampleRequest (operation : TaskOperation) : TaskRequest :=
  ⟨"plan", ⟨.localProcess, none⟩, operation⟩

/-- Two workers claim the Tasks of a new graph.  Both load it, the first swaps it, and the
second tries again and finds nothing left to claim. -/
def sampleMoves : List (Served.Move TaskRequest Reading) :=
  [.request (sampleRequest (.create TaskGraph.sampleDefinitions)),
    .call 0 (sampleReading ""),
    .request (sampleRequest (.claim "worker-1" 100 2)),
    .request (sampleRequest (.claim "worker-2" 100 2)),
    .call 1 (sampleReading ""), .call 2 (sampleReading ""),
    .call 1 (sampleReading ""), .call 2 (sampleReading ""),
    .call 1 (sampleReading "a-"), .call 2 (sampleReading "b-"),
    .call 1 (sampleReading ""), .call 2 (sampleReading ""),
    .call 2 (sampleReading ""), .call 2 (sampleReading ""), .call 2 (sampleReading "c-")]

def sampleServed : Option (Served TaskRequest TaskServiceCall TaskServiceReply TaskServiceWorld
    (Except HarnessError TaskAnswer)) :=
  sampleMoves.foldlM (Served.act TaskServiceWorld.step fun request => request.handle.run)
    ⟨.empty (.memory ∅), []⟩

/-- The leases a finished call returned. -/
def claimedLeases (s : Served TaskRequest TaskServiceCall TaskServiceReply TaskServiceWorld
    (Except HarnessError TaskAnswer)) (call : Nat) : Option (UInt64 × List TaskLeaseId) :=
  match s.tasks[call]? with
  | some (_, .done (.ok (.claimed revision claims))) =>
    some (revision, claims.map fun claim => claim.lease.id)
  | _ => none

theorem worker_calls_exactly_once_sample :
    ∃ s, sampleServed = some s ∧ claimedLeases s 1 = some (2, ["a-build"]) ∧
      claimedLeases s 2 = some (2, []) ∧
      (committedBy 1 s.world.tasks.events).map (·.revision) = [2] ∧
      (committedBy 2 s.world.tasks.events).map (·.revision) = [] ∧
      s.world.tasks.store.Holds (heldAfter s.world.tasks.events) := by
  have played : sampleServed.isSome = true := by decide +kernel
  have first : sampleServed.bind (claimedLeases · 1) = some (2, ["a-build"]) := by decide +kernel
  have second : sampleServed.bind (claimedLeases · 2) = some (2, []) := by decide +kernel
  have one : sampleServed.map (fun s => (committedBy 1 s.world.tasks.events).map (·.revision)) =
      some [2] := by decide +kernel
  have none : sampleServed.map (fun s => (committedBy 2 s.world.tasks.events).map (·.revision)) =
      some [] := by decide +kernel
  obtain ⟨s, ended⟩ := Option.isSome_iff_exists.1 played
  rw [ended] at first second one none
  have reached : Served.Reachable taskService (fun request => request.handle.run)
      (.empty (.memory ∅)) s :=
    Served.Reachable.of_acts TaskServiceWorld.step_executes .start ended
  obtain ⟨holds, _⟩ := worker_calls_exactly_once (.inl rfl) reached
  exact ⟨s, ended, first, second, Option.some.inj one, Option.some.inj none, holds⟩

end Sample

end YHarness.Protocol

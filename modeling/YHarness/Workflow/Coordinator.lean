/-
# YHarness.Workflow.Coordinator -- the stores of Workflow Runs

The in-memory and the SQLite Workflow Coordinator of `src/workflow/coordinator.rs`:
every call holds the lock of the map, or runs in one transaction that an error rolls
back, so a run of a coordinator is a sequence of calls.  A row holds what the JSON
text of its Run says.  A stored snapshot carries a Run that commands have built, and
its revision counts the transitions of the Run (`Stored`).
-/
import YHarness.Kernel.Storage
import YHarness.Workflow.Commands

namespace YHarness.Workflow

open YHarness.Lib YHarness.Kernel

set_option autoImplicit false

variable {V : Type}

structure WorkflowRunSnapshot (V : Type) where
  id : WorkflowRunId
  tenantId : Option String
  revision : UInt64
  run : WorkflowRun V
deriving DecidableEq

structure WorkflowCommandResult (V : Type) where
  snapshot : WorkflowRunSnapshot V
  outcome : WorkflowApplyOutcome

def validateRunAccess (runId : WorkflowRunId) (authority : AuthorityContext) :
    Except HarnessError Unit := do
  authority.validateCurrent "Workflow Coordinator authority"
  validateIdentity "Workflow Run" runId

def validateExpectedRevision (revision : UInt64) : Except HarnessError Unit :=
  rejectIf (revision == 0) (.workflow "Workflow revision must be positive")

def missingRun (runId : WorkflowRunId) : HarnessError :=
  .workflow s!"Workflow Run {runId} does not exist"

def nextRevision (revision : UInt64) : Except HarnessError UInt64 :=
  checkedNext (.workflow "Workflow revision overflow") revision

structure MemoryWorkflowCoordinator (V : Type) where
  runs : OrdMap StoreKey (WorkflowRunSnapshot V)

namespace MemoryWorkflowCoordinator

def empty : MemoryWorkflowCoordinator V :=
  ⟨∅⟩

section Calls

variable [SemVer V] [Sha256]

/-- The snapshot and the map after a creation. -/
def createAs (store : MemoryWorkflowCoordinator V) (runId : WorkflowRunId)
    (request : WorkflowCreateRequest V) (appliedAtMs : UInt64) (authority : AuthorityContext) :
    Except HarnessError (WorkflowRunSnapshot V × MemoryWorkflowCoordinator V) := do
  validateRunAccess runId authority
  match store.runs[storageKey runId authority.tenantId]? with
  | some existing => do
    let same ← existing.run.createMatches request
    if same then .ok (existing, store)
    else .error (.workflow
      s!"Workflow Run {runId} already exists with different creation content")
  | none => do
    let run ← WorkflowRun.new request appliedAtMs authority
    let snapshot : WorkflowRunSnapshot V := ⟨runId, authority.tenantId, 1, run⟩
    .ok (snapshot, ⟨store.runs.insert (storageKey runId authority.tenantId) snapshot⟩)

def loadAs (store : MemoryWorkflowCoordinator V) (runId : WorkflowRunId)
    (authority : AuthorityContext) : Except HarnessError (Option (WorkflowRunSnapshot V)) := do
  validateRunAccess runId authority
  .ok store.runs[storageKey runId authority.tenantId]?

/-- The result and the map after a command. -/
def applyAs (store : MemoryWorkflowCoordinator V) (runId : WorkflowRunId)
    (expectedRevision : UInt64) (command : WorkflowCommand V) (appliedAtMs : UInt64)
    (authority : AuthorityContext) :
    Except HarnessError (WorkflowCommandResult V × MemoryWorkflowCoordinator V) := do
  validateRunAccess runId authority
  validateExpectedRevision expectedRevision
  match store.runs[storageKey runId authority.tenantId]? with
  | none => .error (missingRun runId)
  | some current => do
    let recognized ← current.run.recognizesCommand command
    if recognized then .ok (⟨current, .duplicate⟩, store)
    else do
      rejectIf (current.revision != expectedRevision)
        (.workflowConflict runId expectedRevision current.revision)
      let (run, outcome) ← current.run.apply command appliedAtMs authority
      let revision ← nextRevision current.revision
      let saved : WorkflowRunSnapshot V := ⟨current.id, current.tenantId, revision, run⟩
      .ok (⟨saved, outcome⟩, ⟨store.runs.insert (storageKey runId authority.tenantId) saved⟩)

/-- The maps that successful calls lead to; a call that fails changes nothing. -/
inductive Reachable : MemoryWorkflowCoordinator V → Prop
  | empty : Reachable empty
  | create {store next : MemoryWorkflowCoordinator V} (reached : Reachable store)
      {runId : WorkflowRunId} {request : WorkflowCreateRequest V} {appliedAtMs : UInt64}
      {authority : AuthorityContext} {snapshot : WorkflowRunSnapshot V}
      (created : store.createAs runId request appliedAtMs authority = .ok (snapshot, next)) :
      Reachable next
  | apply {store next : MemoryWorkflowCoordinator V} (reached : Reachable store)
      {runId : WorkflowRunId} {expectedRevision : UInt64} {command : WorkflowCommand V}
      {appliedAtMs : UInt64} {authority : AuthorityContext} {result : WorkflowCommandResult V}
      (applied : store.applyAs runId expectedRevision command appliedAtMs authority =
        .ok (result, next)) : Reachable next

end Calls

end MemoryWorkflowCoordinator

/-! ## The SQLite coordinator -/

def workflowRunSchemaVersion : Int := 1

def sqlError (message : String) : HarnessError :=
  .workflow message

def sqlRevision (revision : UInt64) : Except HarnessError Int :=
  i64TryFrom (.workflow "Workflow revision exceeds SQLite") revision

/-- `u64::try_from` of the revision column. -/
def revisionFromSql (column : Int) : Except HarnessError UInt64 :=
  u64TryFrom (.workflow "Workflow revision is invalid") column

/-- What the JSON text of a Run says: all but its charge. -/
structure WorkflowRunWire (V : Type) where
  definition : WorkflowDefinition V
  taskGraphId : TaskGraphId
  status : WorkflowStatus
  transitions : List (WorkflowTransition V)

def WorkflowRun.toWire (run : WorkflowRun V) : WorkflowRunWire V :=
  ⟨run.definition, run.taskGraphId, run.status, run.transitions⟩

/-- The Run of a text before its charge is computed. -/
def WorkflowRunWire.uncharged (w : WorkflowRunWire V) : WorkflowRun V :=
  ⟨w.definition, w.taskGraphId, w.status, w.transitions, 0⟩

/-- A row of `workflow_runs`; its key is the tenant and the identity. -/
structure WorkflowRow (V : Type) where
  schemaVersion : Int
  revision : Int
  run : WorkflowRunWire V

structure SqliteWorkflowCoordinator (V : Type) where
  runs : OrdMap StoreKey (WorkflowRow V)

section Sqlite

variable [SemVer V] [Sha256]

/-- `Deserialize`; the position that the decoder adds to an error is left out. -/
def WorkflowRunWire.deserialize (w : WorkflowRunWire V) : Except HarnessError (WorkflowRun V) :=
  (do
    w.uncharged.validate
    let materializationChargeBytes ← w.uncharged.encodedSize
    .ok { w.uncharged with materializationChargeBytes }).mapError fun error : HarnessError =>
      .workflow ("decode Workflow Run: " ++ error.display)

/-- `decode_snapshot`. -/
def decodeSnapshot (runId : WorkflowRunId) (tenantId : Option String) (row : WorkflowRow V) :
    Except HarnessError (WorkflowRunSnapshot V) := do
  rejectIf (row.schemaVersion != workflowRunSchemaVersion)
    (.workflow s!"Workflow Run {runId} uses unsupported schema {row.schemaVersion}")
  let revision ← revisionFromSql row.revision
  validateExpectedRevision revision
  let run ← row.run.deserialize
  run.validate
  .ok ⟨runId, tenantId, revision, run⟩

/-- The checks of `encode_run`. -/
def encodeRun (run : WorkflowRun V) : Except HarnessError Unit := do
  run.validate
  rejectIf (decide (maxWorkflowJsonBytes < run.toJson.encodedLen))
    (.workflow s!"Workflow Run exceeds {maxWorkflowJsonBytes} encoded bytes")

namespace SqliteWorkflowCoordinator

def empty : SqliteWorkflowCoordinator V :=
  ⟨∅⟩

def loadSnapshot (store : SqliteWorkflowCoordinator V) (runId : WorkflowRunId)
    (tenantId : Option String) : Except HarnessError (Option (WorkflowRunSnapshot V)) :=
  match store.runs[storageKey runId tenantId]? with
  | none => .ok none
  | some row => do
    rejectIf (decide (maxWorkflowJsonBytes < row.run.uncharged.toJson.encodedLen))
      (sqlError s!"Workflow Run exceeds {maxWorkflowJsonBytes} bytes")
    let snapshot ← decodeSnapshot runId tenantId row
    .ok (some snapshot)

/-- The snapshot and the table after a creation. -/
def createAs (store : SqliteWorkflowCoordinator V) (runId : WorkflowRunId)
    (request : WorkflowCreateRequest V) (appliedAtMs : UInt64) (authority : AuthorityContext) :
    Except HarnessError (WorkflowRunSnapshot V × SqliteWorkflowCoordinator V) := do
  validateRunAccess runId authority
  let found ← store.loadSnapshot runId authority.tenantId
  match found with
  | some existing => do
    let same ← existing.run.createMatches request
    if same then .ok (existing, store)
    else .error (.workflow
      s!"Workflow Run {runId} already exists with different creation content")
  | none => do
    let run ← WorkflowRun.new request appliedAtMs authority
    encodeRun run
    rejectIf (store.runs.contains (storageKey runId authority.tenantId))
      (sqlError "UNIQUE constraint failed: workflow_runs.tenant_id, workflow_runs.run_id")
    .ok (⟨runId, authority.tenantId, 1, run⟩,
      ⟨store.runs.insert (storageKey runId authority.tenantId)
        ⟨workflowRunSchemaVersion, 1, run.toWire⟩⟩)

def loadAs (store : SqliteWorkflowCoordinator V) (runId : WorkflowRunId)
    (authority : AuthorityContext) : Except HarnessError (Option (WorkflowRunSnapshot V)) := do
  validateRunAccess runId authority
  store.loadSnapshot runId authority.tenantId

/-- The result and the table after a command. -/
def applyAs (store : SqliteWorkflowCoordinator V) (runId : WorkflowRunId)
    (expectedRevision : UInt64) (command : WorkflowCommand V) (appliedAtMs : UInt64)
    (authority : AuthorityContext) :
    Except HarnessError (WorkflowCommandResult V × SqliteWorkflowCoordinator V) := do
  validateRunAccess runId authority
  validateExpectedRevision expectedRevision
  let found ← store.loadSnapshot runId authority.tenantId
  let current ← orError (missingRun runId) found
  let recognized ← current.run.recognizesCommand command
  if recognized then .ok (⟨current, .duplicate⟩, store)
  else do
    rejectIf (current.revision != expectedRevision)
      (.workflowConflict runId expectedRevision current.revision)
    let (run, outcome) ← current.run.apply command appliedAtMs authority
    let revision ← nextRevision current.revision
    encodeRun run
    let nextSql ← sqlRevision revision
    let currentSql ← sqlRevision current.revision
    let row ← orError (.workflow "Workflow atomic update changed an unexpected row count")
      (store.runs[storageKey runId authority.tenantId]?.filter fun row =>
        row.revision == currentSql)
    .ok (⟨⟨runId, current.tenantId, revision, run⟩, outcome⟩,
      ⟨store.runs.insert (storageKey runId authority.tenantId)
        { row with revision := nextSql, run := run.toWire }⟩)

end SqliteWorkflowCoordinator

end Sqlite

/-! ## What is stored -/

section Stored

variable [SemVer V] [Sha256]

/-- A stored snapshot: its Run was built by commands, one revision for each. -/
structure WorkflowRunSnapshot.Stored (snapshot : WorkflowRunSnapshot V) : Prop where
  reachable : WorkflowRun.Reachable snapshot.run
  revision : snapshot.revision.toNat = snapshot.run.transitions.length

namespace WorkflowRun

variable {authority : AuthorityContext}

/-- A creation records one transition. -/
theorem length_new {request : WorkflowCreateRequest V} {appliedAtMs : UInt64} {run : WorkflowRun V}
    (created : WorkflowRun.new request appliedAtMs authority = .ok run) :
    run.transitions.length = 1 := by
  iterate 3 replace created := rest_ok created
  obtain ⟨_, _, created⟩ := bind_eq_ok.1 created
  replace created := rest_ok created
  obtain ⟨_, _, created⟩ := bind_eq_ok.1 created
  cases created
  rfl

/-- A command that is not recognized records one transition. -/
theorem length_apply {run next : WorkflowRun V} {command : WorkflowCommand V} {appliedAtMs : UInt64}
    {outcome : WorkflowApplyOutcome} (replays : Replays run.transitions run.projection)
    (unseen : run.recognizesCommand command = .ok false)
    (accepted : run.apply command appliedAtMs authority = .ok (next, outcome)) :
    outcome = .applied ∧ next.transitions.length = run.transitions.length + 1 := by
  cases outcome with
  | applied =>
    obtain ⟨kind, p, size, _, _, rfl⟩ := (apply_eq_applied replays).1 accepted
    exact ⟨rfl, by simp [extend]⟩
  | duplicate =>
    cases unseen.symm.trans (recognized_of_duplicate accepted).1

end WorkflowRun

namespace MemoryWorkflowCoordinator

/-- **Every stored revision counts transitions.** -/
theorem Reachable.stored {store : MemoryWorkflowCoordinator V} (reached : Reachable store) :
    ∀ (key : StoreKey) (snapshot : WorkflowRunSnapshot V),
      store.runs[key]? = some snapshot → snapshot.Stored := by
  induction reached with
  | empty =>
    intro key snapshot found
    cases (OrdMap.get?_empty key).symm.trans found
  | @create store next _ runId request appliedAtMs authority snapshot created ih =>
    replace created := rest_ok created
    split at created
    · obtain ⟨same, _, created⟩ := bind_eq_ok.1 created
      cases same with
      | true =>
        cases created
        exact ih
      | false => cases created
    · obtain ⟨run, started, created⟩ := bind_eq_ok.1 created
      cases created
      exact OrdMap.forall_insert ih ⟨.new started, (WorkflowRun.length_new started).symm⟩
  | @apply store next _ runId expectedRevision command appliedAtMs authority result applied ih =>
    replace applied := rest_ok (rest_ok applied)
    split at applied
    · cases applied
    · rename_i current found
      obtain ⟨recognized, looked, applied⟩ := bind_eq_ok.1 applied
      cases recognized with
      | true =>
        cases applied
        exact ih
      | false =>
        replace applied := rest_ok applied
        obtain ⟨⟨run, outcome⟩, accepted, applied⟩ := bind_eq_ok.1 applied
        obtain ⟨revision, counted, applied⟩ := bind_eq_ok.1 applied
        cases applied
        have before := ih _ _ found
        obtain ⟨_, length⟩ :=
          WorkflowRun.length_apply before.reachable.replays looked accepted
        refine OrdMap.forall_insert ih ⟨.apply before.reachable accepted, ?_⟩
        show revision.toNat = run.transitions.length
        rw [toNat_checkedNext counted, length, before.revision]

end MemoryWorkflowCoordinator

end Stored

end YHarness.Workflow

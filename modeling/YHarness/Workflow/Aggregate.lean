/-
# YHarness.Workflow.Aggregate -- the Workflow Run aggregate

`WorkflowRun.new` and `WorkflowRun.apply` are the command path: they check a
command against the current status and append one transition.
`WorkflowRun.validate` is the replay path: it folds the transitions with checks of
its own (`Replay.applyKind`) and compares the projection with the record.
-/
import Mathlib.Data.Prod.Lex
import YHarness.Workflow.Types

namespace YHarness.Workflow

open YHarness.Lib YHarness.Kernel

set_option autoImplicit false

section Paths

variable {V : Type} [SemVer V] [Sha256]

/-! ## Digests -/

def commandDigest (command : Json) : Except HarnessError String := do
  rejectIf (decide (maxWorkflowCommandJsonBytes < command.encodedLen))
    (.workflow s!"Workflow command exceeds {maxWorkflowCommandJsonBytes} encoded bytes")
  .ok (Sha256.digest (.json command))

/-- The command a transition other than a creation records. -/
def transitionCommandKind : WorkflowTransitionKind V → Option (WorkflowCommandKind V)
  | .created .. => none
  | .waitStarted (.signal id name source expiresAtMs) =>
    some (.waitForSignal id name source expiresAtMs)
  | .waitStarted (.timer id dueAtMs) => some (.waitUntil id dueAtMs)
  | .waitStarted (.retry id activity attempt dueAtMs idempotencyKey) =>
    some (.scheduleRetry id activity attempt dueAtMs idempotencyKey)
  | .signalDelivered waitId signalId name source idempotencyKey =>
    some (.deliverSignal waitId signalId name source idempotencyKey)
  | .waitDue waitId _ => some (.wakeDue waitId)
  | .definitionMigrated _ new => some (.migrateDefinition new)
  | .completed summary => some (.complete summary)
  | .failed reason => some (.fail reason)
  | .cancelled reason => some (.cancel reason)

/-- The JSON of the request or command a transition records. -/
def recordedJson (commandId : WorkflowCommandId) (kind : WorkflowTransitionKind V) : Json :=
  match kind with
  | .created definition taskGraphId =>
    WorkflowCreateRequest.toJson ⟨commandId, definition, taskGraphId⟩
  | _ =>
    match transitionCommandKind kind with
    | some command => WorkflowCommand.toJson ⟨commandId, command⟩
    | none => .null

def transitionDigest (transition : WorkflowTransition V) : Except HarnessError String :=
  commandDigest (recordedJson transition.commandId transition.kind)

def validateCreateRequest (request : WorkflowCreateRequest V) : Except HarnessError Unit := do
  validateIdentity "Workflow command" request.commandId
  validateDefinition request.definition
  validateIdentity "Workflow Task Graph" request.taskGraphId

def validateCommand (command : WorkflowCommand V) : Except HarnessError Unit := do
  validateIdentity "Workflow command" command.id
  let _ ← commandDigest command.toJson
  .ok ()

/-! ## The replay path -/

/-- The loop state of `validate`. -/
structure Replay (V : Type) where
  expectedSequence : UInt64
  commandIds : List WorkflowCommandId
  waitIds : List WorkflowWaitId
  signalIds : List WorkflowSignalId
  definition : Option (WorkflowDefinition V)
  status : Option WorkflowStatus
  taskGraph : Option TaskGraphId
  previousAppliedAtMs : UInt64

namespace Replay

def start : Replay V :=
  ⟨1, [], [], [], none, none, none, 0⟩

/-- The checks of one transition that depend on what it records. -/
def applyKind (r : Replay V) (transition : WorkflowTransition V) :
    Except HarnessError (Replay V) :=
  match transition.kind with
  | .created definition taskGraphId => do
    rejectIf (transition.sequence != 1)
      (.workflow "Workflow creation must be the first transition")
    validateDefinition definition
    validateIdentity "Workflow Task Graph" taskGraphId
    .ok { r with
      definition := some definition, taskGraph := some taskGraphId, status := some .running }
  | .waitStarted wait => do
    rejectIf (r.status != some .running)
      (.workflow "Workflow wait does not follow running state")
    validateWait wait
    rejectIf (r.waitIds.contains wait.id)
      (.workflow "Workflow contains duplicate wait identities")
    .ok { r with waitIds := wait.id :: r.waitIds, status := some (.waiting wait) }
  | .signalDelivered waitId signalId name source idempotencyKey => do
    validateIdentity "Workflow signal" signalId
    validateCapabilityName "Workflow signal" name
    validateCapabilityName "Workflow signal source" source
    validateIdempotencyKey "Workflow signal" idempotencyKey
    rejectIf (r.signalIds.contains signalId)
      (.workflow "Workflow contains duplicate signal identities")
    match r.status with
    | some (.waiting (.signal id expectedName expectedSource expiresAtMs)) => do
      rejectIf (id != waitId || expectedName != name || expectedSource != source)
        (.workflow "Workflow signal transition differs from its wait")
      rejectIf (expiresAtMs.any fun expires => decide (expires ≤ transition.appliedAtMs))
        (.workflow "Workflow signal transition crossed its timeout")
      .ok { r with signalIds := signalId :: r.signalIds, status := some .running }
    | _ => .error (.workflow "Workflow signal does not follow a signal wait")
  | .waitDue waitId reason =>
    match r.status with
    | some (.waiting wait) => do
      rejectIf (wait.id != waitId)
        (.workflow "Workflow due transition differs from its wait")
      let due ← dueReason wait transition.appliedAtMs
      rejectIf (due != reason) (.workflow "Workflow due transition differs from its wait")
      .ok { r with status := some .running }
    | _ => .error (.workflow "Workflow due transition does not follow a wait")
  | .definitionMigrated old new => do
    rejectIf (!(r.status.any WorkflowStatus.isWaiting) || r.definition != some old)
      (.workflow "Workflow definition migration has no matching safe boundary")
    validateDefinition new
    rejectIf (new.name != old.name || decide (new.version ≤ old.version) ||
        new.contentSha256 == old.contentSha256)
      (.workflow "Workflow definition migration is not monotonic")
    .ok { r with definition := some new }
  | .completed summary => do
    rejectIf (r.status != some .running)
      (.workflow "Workflow completion does not follow running state")
    validateText "Workflow completion summary" summary
    .ok { r with status := some (.completed summary) }
  | .failed reason => do
    rejectIf (r.status.all WorkflowStatus.isTerminal)
      (.workflow "Workflow failure does not follow nonterminal state")
    validateText "Workflow failure reason" reason
    .ok { r with status := some (.failed reason) }
  | .cancelled reason => do
    rejectIf (r.status.all WorkflowStatus.isTerminal)
      (.workflow "Workflow cancellation does not follow nonterminal state")
    validateText "Workflow cancellation reason" reason
    .ok { r with status := some (.cancelled reason) }

/-- One round of the loop of `validate`. -/
def step (r : Replay V) (transition : WorkflowTransition V) : Except HarnessError (Replay V) := do
  rejectIf (transition.sequence != r.expectedSequence)
    (.workflow "Workflow transition sequence is not contiguous")
  let expectedSequence ← checkedSequence r.expectedSequence.toNat
  validateIdentity "Workflow command" transition.commandId
  validateDigest "Workflow command" transition.commandSha256
  validateApplicationTime transition.appliedAtMs
  rejectIf (decide (transition.appliedAtMs < r.previousAppliedAtMs))
    (.workflow "Workflow transition time is not monotonic")
  validateActorShape transition.actor
  let digest ← transitionDigest transition
  rejectIf (transition.commandSha256 != digest)
    (.workflow "Workflow transition command digest differs from its content")
  rejectIf (decide (maxWorkflowWorkTransitions < transition.sequence.toNat) &&
      transition.kind.capacityClass == .work)
    (.workflow "Workflow work transition consumed the settlement reserve")
  rejectIf (r.commandIds.contains transition.commandId)
    (.workflow "Workflow contains duplicate command identities")
  { r with
    expectedSequence
    commandIds := transition.commandId :: r.commandIds
    previousAppliedAtMs := transition.appliedAtMs }.applyKind transition

def run (transitions : List (WorkflowTransition V)) : Except HarnessError (Replay V) :=
  transitions.foldlM step start

end Replay

namespace WorkflowRun

def validate (run : WorkflowRun V) : Except HarnessError Unit := do
  validateDefinition run.definition
  validateIdentity "Workflow Task Graph" run.taskGraphId
  rejectIf (run.transitions.isEmpty || decide (maxWorkflowTransitions < run.transitions.length))
    (.workflow s!"Workflow Run must retain 1-{maxWorkflowTransitions} transitions")
  let replayed ← Replay.run run.transitions
  rejectIf (replayed.definition != some run.definition ||
      replayed.taskGraph != some run.taskGraphId || replayed.status != some run.status)
    (.workflow "Workflow projection differs from immutable transitions")

/-! ## The command path -/

def encodedSizeFor (run : WorkflowRun V) (capacityClass : WorkflowCapacityClass) :
    Except HarnessError Nat := do
  validateMaterializationCapacity run.toJson.encodedLen capacityClass
  .ok run.toJson.encodedLen

def encodedSize (run : WorkflowRun V) : Except HarnessError Nat :=
  run.encodedSizeFor .settlement

def new (request : WorkflowCreateRequest V) (appliedAtMs : UInt64)
    (authority : AuthorityContext) : Except HarnessError (WorkflowRun V) := do
  validateCreateRequest request
  validateApplicationTime appliedAtMs
  authority.validateCurrent "Workflow creation authority"
  let commandSha256 ← commandDigest request.toJson
  let run : WorkflowRun V :=
    { definition := request.definition
      taskGraphId := request.taskGraphId
      status := .running
      transitions := [⟨1, request.commandId, commandSha256, appliedAtMs, authority.actor,
        .created request.definition request.taskGraphId⟩]
      materializationChargeBytes := 0 }
  run.validate
  let materializationChargeBytes ← run.encodedSize
  .ok { run with materializationChargeBytes }

/-- Whether the Run was created by this request. -/
def createMatches (run : WorkflowRun V) (request : WorkflowCreateRequest V) :
    Except HarnessError Bool := do
  let digest ← commandDigest request.toJson
  .ok (run.transitions.head?.any fun t =>
    t.commandId == request.commandId && t.commandSha256 == digest)

/-- Whether a command with this identity was applied; an error when it was another
command. -/
def recognizesCommand (run : WorkflowRun V) (command : WorkflowCommand V) :
    Except HarnessError Bool := do
  validateCommand command
  let digest ← commandDigest command.toJson
  match run.transitions.find? fun t => t.commandId == command.id with
  | none => .ok false
  | some existing =>
    if existing.commandSha256 == digest then .ok true
    else .error (.workflow
      s!"Workflow command {command.id} was reused with different content")

def ensureNewWaitId (run : WorkflowRun V) (waitId : WorkflowWaitId) :
    Except HarnessError Unit := do
  validateIdentity "Workflow wait" waitId
  rejectIf (run.transitions.any fun t =>
      match t.kind with
      | .waitStarted wait => wait.id == waitId
      | _ => false)
    (.workflow s!"Workflow wait {waitId} is already committed")

def requireRunning (run : WorkflowRun V) (action : String) : Except HarnessError Unit :=
  rejectIf (run.status != .running) (.workflow s!"Workflow must be running to {action}")

def requireNonterminal (run : WorkflowRun V) (action : String) : Except HarnessError Unit :=
  rejectIf run.status.isTerminal (.workflow s!"terminal Workflow cannot {action}")

/-- A Run that starts to wait, and the transition that records it. -/
def startWait (run : WorkflowRun V) (wait : WorkflowWait) :
    WorkflowRun V × WorkflowTransitionKind V :=
  ({ run with status := .waiting wait }, .waitStarted wait)

/-- The Run after a command, and the transition that records it. -/
def applyKind (run : WorkflowRun V) (kind : WorkflowCommandKind V) (appliedAtMs : UInt64) :
    Except HarnessError (WorkflowRun V × WorkflowTransitionKind V) :=
  match kind with
  | .waitForSignal waitId name source expiresAtMs => do
    run.requireRunning "start a signal wait"
    rejectIf (expiresAtMs.any fun expires => decide (expires ≤ appliedAtMs))
      (.workflow "signal wait expiration must be later than application time")
    validateCapabilityName "Workflow signal" name
    validateCapabilityName "Workflow signal source" source
    run.ensureNewWaitId waitId
    .ok (run.startWait (.signal waitId name source expiresAtMs))
  | .waitUntil waitId dueAtMs => do
    run.requireRunning "start a timer wait"
    rejectIf (decide (dueAtMs ≤ appliedAtMs))
      (.workflow "timer due time must be later than application time")
    run.ensureNewWaitId waitId
    .ok (run.startWait (.timer waitId dueAtMs))
  | .scheduleRetry waitId activity attempt dueAtMs idempotencyKey => do
    run.requireRunning "schedule a retry"
    validateCapabilityName "Workflow retry activity" activity
    validateIdempotencyKey "Workflow retry" idempotencyKey
    rejectIf (attempt == 0) (.workflow "Workflow retry attempt must be positive")
    rejectIf (decide (dueAtMs ≤ appliedAtMs))
      (.workflow "Workflow retry due time must be later than application time")
    run.ensureNewWaitId waitId
    .ok (run.startWait (.retry waitId activity attempt dueAtMs idempotencyKey))
  | .deliverSignal waitId signalId name source idempotencyKey => do
    validateCapabilityName "Workflow signal" name
    validateCapabilityName "Workflow signal source" source
    validateIdempotencyKey "Workflow signal" idempotencyKey
    validateIdentity "Workflow signal" signalId
    rejectIf (run.transitions.any fun t =>
        match t.kind with
        | .signalDelivered _ existing _ _ _ => existing == signalId
        | _ => false)
      (.workflow s!"Workflow signal {signalId} is already committed")
    match run.status with
    | .waiting (.signal id expectedName expectedSource expiresAtMs) => do
      rejectIf (id != waitId || expectedName != name || expectedSource != source)
        (.workflow "Workflow signal does not match the current wait")
      rejectIf (expiresAtMs.any fun expires => decide (expires ≤ appliedAtMs))
        (.workflow "Workflow signal arrived at or after the timeout boundary")
      .ok ({ run with status := .running },
        .signalDelivered waitId signalId name source idempotencyKey)
    | _ => .error (.workflow "Workflow is not waiting for a signal")
  | .wakeDue waitId =>
    match run.status with
    | .waiting wait => do
      rejectIf (wait.id != waitId) (.workflow "Workflow wake does not match the current wait")
      let reason ← dueReason wait appliedAtMs
      .ok ({ run with status := .running }, .waitDue waitId reason)
    | _ => .error (.workflow "Workflow has no current wait to wake")
  | .migrateDefinition definition => do
    rejectIf (!run.status.isWaiting)
      (.workflow "Workflow definition migration requires a durable wait boundary")
    validateDefinition definition
    rejectIf (definition.name != run.definition.name ||
        decide (definition.version ≤ run.definition.version) ||
        definition.contentSha256 == run.definition.contentSha256)
      (.workflow ("Workflow migration requires the same name, a newer version, and a " ++
        "different digest"))
    .ok ({ run with definition }, .definitionMigrated run.definition definition)
  | .complete summary => do
    run.requireRunning "complete"
    validateText "Workflow completion summary" summary
    .ok ({ run with status := .completed summary }, .completed summary)
  | .fail reason => do
    run.requireNonterminal "fail"
    validateText "Workflow failure reason" reason
    .ok ({ run with status := .failed reason }, .failed reason)
  | .cancel reason => do
    run.requireNonterminal "cancel"
    validateText "Workflow cancellation reason" reason
    .ok ({ run with status := .cancelled reason }, .cancelled reason)

/-- The Run after a command, and whether the command changed it. -/
def apply (run : WorkflowRun V) (command : WorkflowCommand V) (appliedAtMs : UInt64)
    (authority : AuthorityContext) :
    Except HarnessError (WorkflowRun V × WorkflowApplyOutcome) := do
  let recognized ← run.recognizesCommand command
  if recognized then .ok (run, .duplicate)
  else do
    validateApplicationTime appliedAtMs
    authority.validateCurrent "Workflow command authority"
    let digest ← commandDigest command.toJson
    validateTransitionCapacity run.transitions.length command.kind.capacityClass
    rejectIf (run.transitions.getLast?.any fun t => decide (appliedAtMs < t.appliedAtMs))
      (.workflow "Workflow application time cannot move backwards")
    let (next, kind) ← run.applyKind command.kind appliedAtMs
    let sequence ← checkedSequence next.transitions.length
    let next : WorkflowRun V := { next with
      transitions := next.transitions ++
        [⟨sequence, command.id, digest, appliedAtMs, authority.actor, kind⟩] }
    next.validate
    let materializationChargeBytes ← next.encodedSizeFor command.kind.capacityClass
    .ok ({ next with materializationChargeBytes }, .applied)

/-- The Runs that a creation and successful commands lead to. -/
inductive Reachable : WorkflowRun V → Prop
  | new {request : WorkflowCreateRequest V} {appliedAtMs : UInt64} {authority : AuthorityContext}
      {run : WorkflowRun V} (created : WorkflowRun.new request appliedAtMs authority = .ok run) :
      Reachable run
  | apply {run next : WorkflowRun V} (reached : Reachable run) {command : WorkflowCommand V}
      {appliedAtMs : UInt64} {authority : AuthorityContext} {outcome : WorkflowApplyOutcome}
      (accepted : run.apply command appliedAtMs authority = .ok (next, outcome)) :
      Reachable next

/-- Commands one after the other. -/
def applyAll (run : WorkflowRun V) (commands : List (WorkflowCommand V × UInt64 × AuthorityContext)) :
    Except HarnessError (WorkflowRun V) :=
  commands.foldlM (fun run (command, appliedAtMs, authority) => do
    let (next, _) ← run.apply command appliedAtMs authority
    .ok next) run

theorem Reachable.applyAll {run last : WorkflowRun V} (reached : Reachable run)
    {commands : List (WorkflowCommand V × UInt64 × AuthorityContext)}
    (ran : run.applyAll commands = .ok last) : Reachable last := by
  refine foldlM_history (fun _ run => Reachable run) reached (fun _ _ _ _ _ reached moved => ?_) ran
  obtain ⟨_, accepted, moved⟩ := bind_eq_ok.1 moved
  cases moved
  exact .apply reached accepted

end WorkflowRun

end Paths

/-! ## A sample -/

/-- Versions without pre-release and build parts. -/
structure ReleaseVersion where
  major : Nat
  minor : Nat
  patch : Nat

namespace ReleaseVersion

def key (v : ReleaseVersion) : Nat ×ₗ Nat ×ₗ Nat :=
  toLex (v.major, toLex (v.minor, v.patch))

theorem key_injective : Function.Injective key := by
  rintro ⟨major, minor, patch⟩ ⟨major', minor', patch'⟩ same
  cases same
  rfl

instance : SemVer ReleaseVersion where
  toLinearOrder := LinearOrder.lift' key key_injective
  display v := s!"{v.major}.{v.minor}.{v.patch}"

end ReleaseVersion

namespace WorkflowRun

section Sample

attribute [local instance] constantSha256

def sampleDigest (letter : Char) : String :=
  String.ofList (List.replicate 64 letter)

def sampleDefinition (major : Nat) (letter : Char) : WorkflowDefinition ReleaseVersion :=
  ⟨"example.workflow", ⟨major, 0, 0⟩, sampleDigest letter⟩

def sampleRequest : WorkflowCreateRequest ReleaseVersion :=
  ⟨"create", sampleDefinition 1 'a', "graph"⟩

def sampleRun : WorkflowRun ReleaseVersion :=
  (WorkflowRun.new sampleRequest 10 .localProcess).toOption.getD
    ⟨sampleDefinition 0 'a', "", .running, [], 0⟩

theorem sampleRun_created :
    WorkflowRun.new sampleRequest 10 .localProcess = .ok sampleRun :=
  eq_ok_getD _ (by decide +kernel)

/-- A signal wait that a migration interrupts and a signal settles, a timer that
fires, and a retry that is still open. -/
def sampleCommands : List (WorkflowCommand ReleaseVersion × UInt64 × AuthorityContext) :=
  [(⟨"wait", .waitForSignal "signal-wait" "order.updated" "connector.orders" (some 100)⟩, 20,
      .localProcess),
    (⟨"migrate", .migrateDefinition (sampleDefinition 2 'b')⟩, 30, .localProcess),
    (⟨"deliver", .deliverSignal "signal-wait" "signal" "order.updated" "connector.orders"
      "event-1"⟩, 99, .localProcess),
    (⟨"sleep", .waitUntil "timer" 200⟩, 110, .localProcess),
    (⟨"wake", .wakeDue "timer"⟩, 200, .localProcess),
    (⟨"schedule", .scheduleRetry "retry" "connector.write" 2 300 "effect-1"⟩, 210, .localProcess)]

def sampleWaiting : WorkflowRun ReleaseVersion :=
  (sampleRun.applyAll sampleCommands).toOption.getD sampleRun

theorem sampleWaiting_reachable : Reachable sampleWaiting := by
  have ran : sampleRun.applyAll sampleCommands = .ok sampleWaiting :=
    eq_ok_getD _ (by decide +kernel)
  exact (Reachable.new sampleRun_created).applyAll ran

end Sample

end WorkflowRun

end YHarness.Workflow

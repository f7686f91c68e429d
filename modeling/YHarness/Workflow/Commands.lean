/-
# YHarness.Workflow.Commands -- what the command path accepts

`applyKind` decides a command against the current status and names the transition
to record.  It allows the moves of the replay, with one check more: a wait must end
after the time it is opened (`Timely`).  `apply_eq_applied` lists everything that
`apply` asks of a new command; the capacity of a Run and the agreement of the two
paths are read off it.
-/
import YHarness.Workflow.Waits

namespace YHarness.Workflow

open YHarness.Lib YHarness.Kernel

set_option autoImplicit false

variable {V : Type}

/-! ## One command -/

/-- A wait ends after the time it is opened. -/
def WorkflowTransitionKind.Timely (now : UInt64) : WorkflowTransitionKind V → Prop
  | waitStarted wait => ∀ boundary, wait.boundary = some boundary → now < boundary
  | _ => True

namespace WorkflowRun

/-- The Run with another projection. -/
def moveTo (run : WorkflowRun V) (p : WorkflowProjection V) : WorkflowRun V :=
  { run with definition := p.definition, taskGraphId := p.taskGraphId, status := p.status }

variable {run : WorkflowRun V}

theorem ensureNewWaitId_eq_ok {waitId : WorkflowWaitId} :
    run.ensureNewWaitId waitId = .ok () ↔
      validateIdentity "Workflow wait" waitId = .ok () ∧ waitId ∉ waitsOf run.transitions := by
  rw [ensureNewWaitId, seq_eq_ok, rejectIf_eq_ok, List.any_eq_false, mem_waitsOf]
  refine and_congr_right fun _ => ⟨?_, ?_⟩
  · rintro unused ⟨t, member, wait, opened, same⟩
    refine unused t member ?_
    rw [waitStarted_of_wait? opened]
    exact beq_iff_eq.2 same
  · intro unused t member opens
    split at opens
    · rename_i wait kind
      refine unused ⟨t, member, wait, ?_, beq_iff_eq.1 opens⟩
      rw [kind]
      rfl
    · cases opens

theorem freshSignal_eq_ok {past : List (WorkflowTransition V)} {signalId : WorkflowSignalId}
    {error : HarnessError} :
    rejectIf (past.any fun t =>
        match t.kind with
        | .signalDelivered _ existing _ _ _ => existing == signalId
        | _ => false) error = .ok () ↔ signalId ∉ signalsOf past := by
  rw [rejectIf_eq_ok, List.any_eq_false, signalsOf, List.mem_filterMap]
  constructor
  · rintro unused ⟨t, member, delivered⟩
    refine unused t member ?_
    cases kind : t.kind <;> rw [kind] at delivered <;> cases delivered
    exact beq_self_eq_true _
  · intro unused t member delivers
    split at delivers
    · rename_i waitId existing name source idempotencyKey kind
      refine unused ⟨t, member, ?_⟩
      rw [kind, ← beq_iff_eq.1 delivers]
      rfl
    · cases delivers

theorem requireRunning_eq_ok {action : String} :
    run.requireRunning action = .ok () ↔ run.status = .running := by
  rw [requireRunning, rejectIf_bne]

theorem requireNonterminal_eq_ok {action : String} :
    run.requireNonterminal action = .ok () ↔ run.status.isTerminal = false := by
  rw [requireNonterminal, rejectIf_eq_ok]

theorem later_ne_zero {now boundary : UInt64} (later : now < boundary) : boundary ≠ 0 := by
  rintro rfl
  exact absurd later (UInt64.not_lt.2 (UInt64.zero_le))

variable [SemVer V]

/-- The transition `kind` records the command and moves the Run to `next`; a wait that it opens
is still to come. -/
def Decides (run : WorkflowRun V) (command : WorkflowCommandKind V) (now : UInt64)
    (next : WorkflowRun V) (kind : WorkflowTransitionKind V) : Prop :=
  ∃ p, Moves (waitsOf run.transitions) (signalsOf run.transitions) now run.projection kind p ∧
    kind.Timely now ∧ transitionCommandKind kind = some command ∧ next = run.moveTo p

variable {next : WorkflowRun V} {now : UInt64} {kind : WorkflowTransitionKind V}

/-- A command that opens a wait moves a running Run. -/
theorem startWait_decides {wait : WorkflowWait} {command : WorkflowCommandKind V} {action : String}
    (running : run.requireRunning action = .ok ()) (valid : validateWait wait = .ok ())
    (fresh : wait.id ∉ waitsOf run.transitions)
    (timely : ∀ boundary, wait.boundary = some boundary → now < boundary)
    (opens : transitionCommandKind (.waitStarted wait) = some command) :
    run.Decides command now (run.startWait wait).1 (.waitStarted wait) := by
  refine ⟨⟨run.definition, run.taskGraphId, .waiting wait⟩, ?_, timely, opens, rfl⟩
  rw [projection, requireRunning_eq_ok.1 running]
  exact .wait valid fresh

theorem waitForSignal_decides {waitId name source expiresAtMs}
    (applied : run.applyKind (.waitForSignal waitId name source expiresAtMs) now =
      .ok (next, kind)) :
    run.Decides (.waitForSignal waitId name source expiresAtMs) now next kind := by
  obtain ⟨running, applied⟩ := seq_eq_ok.1 applied
  obtain ⟨early, applied⟩ := seq_eq_ok.1 applied
  obtain ⟨named, applied⟩ := seq_eq_ok.1 applied
  obtain ⟨sourced, applied⟩ := seq_eq_ok.1 applied
  obtain ⟨fresh, applied⟩ := seq_eq_ok.1 applied
  cases applied
  obtain ⟨identity, unused⟩ := ensureNewWaitId_eq_ok.1 fresh
  have timely := early_eq_ok.1 early
  have positive : rejectIf (expiresAtMs == some 0)
      (HarnessError.workflow "Workflow signal expiration must be positive") = .ok () := by
    rw [rejectIf_eq_ok, beq_eq_false_iff_ne]
    rintro rfl
    exact later_ne_zero (timely 0 rfl) rfl
  have valid : validateWait (.signal waitId name source expiresAtMs) = .ok () :=
    seq_eq_ok.2 ⟨identity, seq_eq_ok.2 ⟨named, seq_eq_ok.2 ⟨sourced, positive⟩⟩⟩
  exact startWait_decides running valid unused timely rfl

theorem waitUntil_decides {waitId dueAtMs}
    (applied : run.applyKind (.waitUntil waitId dueAtMs) now = .ok (next, kind)) :
    run.Decides (.waitUntil waitId dueAtMs) now next kind := by
  obtain ⟨running, applied⟩ := seq_eq_ok.1 applied
  obtain ⟨early, applied⟩ := seq_eq_ok.1 applied
  obtain ⟨fresh, applied⟩ := seq_eq_ok.1 applied
  cases applied
  obtain ⟨identity, unused⟩ := ensureNewWaitId_eq_ok.1 fresh
  rw [rejectIf_decide, UInt64.not_le] at early
  have valid : validateWait (.timer waitId dueAtMs) = .ok () := by
    refine seq_eq_ok.2 ⟨identity, ?_⟩
    rw [rejectIf_eq_ok, beq_eq_false_iff_ne]
    exact later_ne_zero early
  refine startWait_decides running valid unused ?_ rfl
  rintro boundary ⟨⟩
  exact early

theorem scheduleRetry_decides {waitId activity attempt dueAtMs idempotencyKey}
    (applied : run.applyKind (.scheduleRetry waitId activity attempt dueAtMs idempotencyKey) now =
      .ok (next, kind)) :
    run.Decides (.scheduleRetry waitId activity attempt dueAtMs idempotencyKey) now next kind := by
  obtain ⟨running, applied⟩ := seq_eq_ok.1 applied
  obtain ⟨named, applied⟩ := seq_eq_ok.1 applied
  obtain ⟨keyed, applied⟩ := seq_eq_ok.1 applied
  obtain ⟨attempted, applied⟩ := seq_eq_ok.1 applied
  obtain ⟨early, applied⟩ := seq_eq_ok.1 applied
  obtain ⟨fresh, applied⟩ := seq_eq_ok.1 applied
  cases applied
  obtain ⟨identity, unused⟩ := ensureNewWaitId_eq_ok.1 fresh
  rw [rejectIf_decide, UInt64.not_le] at early
  rw [rejectIf_eq_ok] at attempted
  have valid : validateWait (.retry waitId activity attempt dueAtMs idempotencyKey) = .ok () := by
    refine seq_eq_ok.2 ⟨identity, seq_eq_ok.2 ⟨named, seq_eq_ok.2 ⟨keyed, ?_⟩⟩⟩
    rw [rejectIf_eq_ok, attempted, Bool.false_or, beq_eq_false_iff_ne]
    exact later_ne_zero early
  refine startWait_decides running valid unused ?_ rfl
  rintro boundary ⟨⟩
  exact early

theorem deliverSignal_decides {waitId signalId name source idempotencyKey}
    (applied : run.applyKind (.deliverSignal waitId signalId name source idempotencyKey) now =
      .ok (next, kind)) :
    run.Decides (.deliverSignal waitId signalId name source idempotencyKey) now next kind := by
  obtain ⟨named, applied⟩ := seq_eq_ok.1 applied
  obtain ⟨sourced, applied⟩ := seq_eq_ok.1 applied
  obtain ⟨keyed, applied⟩ := seq_eq_ok.1 applied
  obtain ⟨identity, applied⟩ := seq_eq_ok.1 applied
  obtain ⟨fresh, applied⟩ := seq_eq_ok.1 applied
  split at applied
  · rename_i id expectedName expectedSource expiresAtMs waiting
    obtain ⟨matches_, applied⟩ := seq_eq_ok.1 applied
    obtain ⟨early, applied⟩ := seq_eq_ok.1 applied
    cases applied
    rw [rejectIf_eq_ok, Bool.or_eq_false_iff, Bool.or_eq_false_iff, bne_eq_false_iff_eq,
      bne_eq_false_iff_eq, bne_eq_false_iff_eq] at matches_
    obtain ⟨⟨rfl, rfl⟩, rfl⟩ := matches_
    refine ⟨⟨run.definition, run.taskGraphId, .running⟩, ?_, trivial, rfl, rfl⟩
    rw [projection, waiting]
    exact .signal identity named sourced keyed (freshSignal_eq_ok.1 fresh) (early_eq_ok.1 early)
  · cases applied

theorem wakeDue_decides {waitId}
    (applied : run.applyKind (.wakeDue waitId) now = .ok (next, kind)) :
    run.Decides (.wakeDue waitId) now next kind := by
  unfold applyKind at applied
  dsimp only at applied
  split at applied
  · rename_i wait waiting
    obtain ⟨same, applied⟩ := seq_eq_ok.1 applied
    obtain ⟨reason, due, applied⟩ := bind_eq_ok.1 applied
    cases applied
    rw [rejectIf_bne] at same
    subst same
    refine ⟨⟨run.definition, run.taskGraphId, .running⟩, ?_, trivial, rfl, rfl⟩
    rw [projection, waiting]
    exact .due due
  · cases applied

theorem migrateDefinition_decides {definition}
    (applied : run.applyKind (.migrateDefinition definition) now = .ok (next, kind)) :
    run.Decides (.migrateDefinition definition) now next kind := by
  obtain ⟨boundary, applied⟩ := seq_eq_ok.1 applied
  obtain ⟨valid, applied⟩ := seq_eq_ok.1 applied
  obtain ⟨monotonic, applied⟩ := seq_eq_ok.1 applied
  cases applied
  obtain ⟨named, newer, changed⟩ := migration_eq_ok.1 monotonic
  rw [rejectIf_eq_ok, Bool.not_eq_false'] at boundary
  cases waiting : run.status with
  | waiting wait =>
    refine ⟨⟨definition, run.taskGraphId, .waiting wait⟩, ?_, trivial, rfl, ?_⟩
    · rw [projection, waiting]
      exact .migrate valid named newer changed
    · rw [moveTo, ← waiting]
  | _ =>
    rw [waiting] at boundary
    cases boundary

theorem decides_of_applyKind {command : WorkflowCommandKind V}
    (applied : run.applyKind command now = .ok (next, kind)) :
    run.Decides command now next kind := by
  cases command with
  | waitForSignal => exact waitForSignal_decides applied
  | waitUntil => exact waitUntil_decides applied
  | scheduleRetry => exact scheduleRetry_decides applied
  | deliverSignal => exact deliverSignal_decides applied
  | wakeDue => exact wakeDue_decides applied
  | migrateDefinition => exact migrateDefinition_decides applied
  | complete summary =>
    obtain ⟨running, applied⟩ := seq_eq_ok.1 applied
    obtain ⟨text, applied⟩ := seq_eq_ok.1 applied
    cases applied
    refine ⟨⟨run.definition, run.taskGraphId, .completed summary⟩, ?_, trivial, rfl, rfl⟩
    rw [projection, requireRunning_eq_ok.1 running]
    exact .complete text
  | fail reason =>
    obtain ⟨live, applied⟩ := seq_eq_ok.1 applied
    obtain ⟨text, applied⟩ := seq_eq_ok.1 applied
    cases applied
    exact ⟨⟨run.definition, run.taskGraphId, .failed reason⟩,
      .fail (requireNonterminal_eq_ok.1 live) text, trivial, rfl, rfl⟩
  | cancel reason =>
    obtain ⟨live, applied⟩ := seq_eq_ok.1 applied
    obtain ⟨text, applied⟩ := seq_eq_ok.1 applied
    cases applied
    exact ⟨⟨run.definition, run.taskGraphId, .cancelled reason⟩,
      .cancel (requireNonterminal_eq_ok.1 live) text, trivial, rfl, rfl⟩

/-- A running Run opens a wait that is valid, new and still to come. -/
theorem applyKind_wait {wait : WorkflowWait} {command : WorkflowCommandKind V}
    (running : run.status = .running) (valid : validateWait wait = .ok ())
    (fresh : wait.id ∉ waitsOf run.transitions)
    (timely : ∀ boundary, wait.boundary = some boundary → now < boundary)
    (opens : transitionCommandKind (.waitStarted wait) = some command) :
    run.applyKind command now = .ok (run.startWait wait) := by
  obtain ⟨identity, valid⟩ := seq_eq_ok.1 valid
  have unused : run.ensureNewWaitId wait.id = .ok () := ensureNewWaitId_eq_ok.2 ⟨identity, fresh⟩
  cases wait with
  | signal id name source expiresAtMs =>
    cases opens
    obtain ⟨named, valid⟩ := seq_eq_ok.1 valid
    obtain ⟨sourced, _⟩ := seq_eq_ok.1 valid
    refine seq_eq_ok.2 ⟨requireRunning_eq_ok.2 running, seq_eq_ok.2 ⟨early_eq_ok.2 timely, ?_⟩⟩
    exact seq_eq_ok.2 ⟨named, seq_eq_ok.2 ⟨sourced, seq_eq_ok.2 ⟨unused, rfl⟩⟩⟩
  | timer id dueAtMs =>
    cases opens
    refine seq_eq_ok.2 ⟨requireRunning_eq_ok.2 running, seq_eq_ok.2 ⟨?_, seq_eq_ok.2 ⟨unused, rfl⟩⟩⟩
    rw [rejectIf_decide, UInt64.not_le]
    exact timely dueAtMs rfl
  | retry id activity attempt dueAtMs idempotencyKey =>
    cases opens
    obtain ⟨named, valid⟩ := seq_eq_ok.1 valid
    obtain ⟨keyed, positive⟩ := seq_eq_ok.1 valid
    rw [rejectIf_eq_ok, Bool.or_eq_false_iff] at positive
    refine seq_eq_ok.2 ⟨requireRunning_eq_ok.2 running, seq_eq_ok.2 ⟨named, ?_⟩⟩
    refine seq_eq_ok.2 ⟨keyed, seq_eq_ok.2 ⟨?_, seq_eq_ok.2 ⟨?_, seq_eq_ok.2 ⟨unused, rfl⟩⟩⟩⟩
    · rw [rejectIf_eq_ok]
      exact positive.1
    · rw [rejectIf_decide, UInt64.not_le]
      exact timely dueAtMs rfl

theorem applyKind_of_decides {command : WorkflowCommandKind V}
    (decides : run.Decides command now next kind) :
    run.applyKind command now = .ok (next, kind) := by
  obtain ⟨p, moves, timely, recorded, rfl⟩ := decides
  obtain ⟨definition, graphId, status, transitions, charge⟩ := run
  simp only [projection] at moves
  cases moves with
  | wait valid fresh => exact applyKind_wait rfl valid fresh timely recorded
  | signal identity named sourced keyed fresh early =>
    cases recorded
    refine seq_eq_ok.2 ⟨named, seq_eq_ok.2 ⟨sourced, seq_eq_ok.2 ⟨keyed, ?_⟩⟩⟩
    refine seq_eq_ok.2 ⟨identity, seq_eq_ok.2 ⟨freshSignal_eq_ok.2 fresh, ?_⟩⟩
    refine seq_eq_ok.2 ⟨?_, seq_eq_ok.2 ⟨early_eq_ok.2 early, rfl⟩⟩
    simp
  | due due =>
    cases recorded
    refine seq_eq_ok.2 ⟨by rw [rejectIf_eq_ok, bne_self_eq_false], ?_⟩
    exact bind_eq_ok.2 ⟨_, due, rfl⟩
  | migrate valid named newer changed =>
    cases recorded
    refine seq_eq_ok.2 ⟨rfl, seq_eq_ok.2 ⟨valid, seq_eq_ok.2 ⟨?_, rfl⟩⟩⟩
    exact migration_eq_ok.2 ⟨named, newer, changed⟩
  | complete text =>
    cases recorded
    exact seq_eq_ok.2 ⟨rfl, seq_eq_ok.2 ⟨text, rfl⟩⟩
  | fail live text | cancel live text =>
    cases recorded
    exact seq_eq_ok.2 ⟨requireNonterminal_eq_ok.2 live, seq_eq_ok.2 ⟨text, rfl⟩⟩

/-- **The command path is the relation**: a command is decided as the transition
that records it moves the Run, provided a wait it opens is still to come. -/
theorem applyKind_eq_ok {command : WorkflowCommandKind V} :
    run.applyKind command now = .ok (next, kind) ↔ run.Decides command now next kind :=
  ⟨decides_of_applyKind, applyKind_of_decides⟩

end WorkflowRun

/-! ## A new command -/

variable {capacityClass : WorkflowCapacityClass} {command : WorkflowCommandKind V}
  {kind : WorkflowTransitionKind V}

/-- A command and the transition that records it are of one class. -/
theorem capacityClass_recorded (recorded : transitionCommandKind kind = some command) :
    kind.capacityClass = command.capacityClass := by
  cases kind with
  | waitStarted wait => cases wait <;> cases recorded <;> rfl
  | created => cases recorded
  | _ =>
    cases recorded
    rfl

theorem recordedJson_eq [SemVer V] {commandId : WorkflowCommandId}
    (recorded : transitionCommandKind kind = some command) :
    recordedJson commandId kind = WorkflowCommand.toJson ⟨commandId, command⟩ := by
  cases kind with
  | created => cases recorded
  | _ =>
    unfold recordedJson
    dsimp only
    rw [recorded]

theorem validateTransitionCapacity_eq_ok {count : Nat} :
    validateTransitionCapacity count capacityClass = .ok () ↔
      count < maxWorkflowTransitions ∧
        (capacityClass = .work → count < maxWorkflowWorkTransitions) := by
  rw [validateTransitionCapacity, seq_eq_ok, rejectIf_decide, not_le, rejectIf_eq_ok,
    Bool.and_comm, and_beq_eq_false, not_le]

theorem validateMaterializationCapacity_eq_ok {size : Nat} :
    validateMaterializationCapacity size capacityClass = .ok () ↔
      size ≤ maxWorkflowJsonBytes ∧ (capacityClass = .work → size ≤ maxWorkflowWorkJsonBytes) := by
  rw [validateMaterializationCapacity, seq_eq_ok, rejectIf_decide, not_lt, rejectIf_eq_ok,
    Bool.and_comm, and_beq_eq_false, not_lt]

theorem validateActorShape_of_current {kind : String} {authority : AuthorityContext}
    (current : authority.validateCurrent kind = .ok ()) :
    validateActorShape authority.actor = .ok () := by
  have valid := mapError_eq_ok.1 (seq_eq_ok.1 current).1
  have renamed : authority.actor.validateCurrentMessage "Workflow transition actor" = .ok () :=
    currentMessage_kind valid
  exact mapError_eq_ok.2 (mapError_eq_ok.2 (seq_eq_ok.1 renamed).1)

theorem ordered_eq_ok {past : List (WorkflowTransition V)} {now : UInt64} {error : HarnessError} :
    rejectIf (past.getLast?.any fun t => decide (now < t.appliedAtMs)) error = .ok () ↔
      lastTime past ≤ now := by
  rw [rejectIf_eq_ok, lastTime]
  cases past.getLast? with
  | none => simp [UInt64.zero_le]
  | some t => simp [UInt64.not_lt]

section Paths

variable [SemVer V] [Sha256]

namespace WorkflowRun

/-- The transition that records a command. -/
def transitionFor (run : WorkflowRun V) (command : WorkflowCommand V) (now : UInt64)
    (actor : ActorIdentity) (kind : WorkflowTransitionKind V) : WorkflowTransition V :=
  ⟨UInt64.ofNat (run.transitions.length + 1), command.id, Sha256.digest (.json command.toJson),
    now, actor, kind⟩

/-- The Run with one more transition, which leads to `p`. -/
def extend (run : WorkflowRun V) (t : WorkflowTransition V) (p : WorkflowProjection V) :
    WorkflowRun V :=
  { run.moveTo p with transitions := run.transitions ++ [t] }

/-- A Run admits a new command, recorded as a transition of this kind that leads to
`p`. -/
structure Admits (run : WorkflowRun V) (command : WorkflowCommand V) (now : UInt64)
    (authority : AuthorityContext) (kind : WorkflowTransitionKind V)
    (p : WorkflowProjection V) : Prop where
  wellFormed : validateCommand command = .ok ()
  fresh : command.id ∉ run.transitions.map (·.commandId)
  time : validateApplicationTime now = .ok ()
  current : authority.validateCurrent "Workflow command authority" = .ok ()
  room : validateTransitionCapacity run.transitions.length command.kind.capacityClass = .ok ()
  ordered : lastTime run.transitions ≤ now
  moves : Moves (waitsOf run.transitions) (signalsOf run.transitions) now run.projection kind p
  timely : kind.Timely now
  recorded : transitionCommandKind kind = some command.kind

variable {authority : AuthorityContext} {command : WorkflowCommand V} {now : UInt64}
  {kind : WorkflowTransitionKind V} {p : WorkflowProjection V} {run next : WorkflowRun V}

theorem Admits.small {run : WorkflowRun V} (admits : run.Admits command now authority kind p) :
    commandDigest command.toJson = .ok (Sha256.digest (.json command.toJson)) := by
  obtain ⟨_, digested⟩ := seq_eq_ok.1 admits.wellFormed
  obtain ⟨digest, computed, _⟩ := bind_eq_ok.1 digested
  rw [computed, (commandDigest_eq_ok.1 computed).2]

/-- An admitted command is recorded as the replay wants it. -/
theorem Admits.valid {run : WorkflowRun V} (replays : Replays run.transitions run.projection)
    (admits : run.Admits command now authority kind p) :
    (run.extend (run.transitionFor command now authority.actor kind) p).validate = .ok () := by
  obtain ⟨room, work⟩ := validateTransitionCapacity_eq_ok.1 admits.room
  have counted : run.transitions.length + 2 < UInt64.size := by
    have most : run.transitions.length < 4098 := room
    refine lt_trans (Nat.add_lt_add_right most 2) (by decide)
  have recorded : Recorded run.transitions
      (run.transitionFor command now authority.actor kind) := by
    refine ⟨rfl, counted, (seq_eq_ok.1 admits.wellFormed).1, admits.time, admits.ordered,
      validateActorShape_of_current admits.current, ?_, ?_, admits.fresh⟩
    · show commandDigest (recordedJson command.id kind) = _
      rw [recordedJson_eq admits.recorded]
      exact admits.small
    · intro ofWork
      exact work ((capacityClass_recorded admits.recorded).symm.trans ofWork)
  rw [validate_eq_ok]
  refine ⟨?_, .moved replays recorded admits.moves⟩
  rw [extend, List.length_append, List.length_singleton]
  exact room

/-- **What `apply` asks of a new command.** -/
theorem apply_eq_applied (replays : Replays run.transitions run.projection) :
    run.apply command now authority = .ok (next, .applied) ↔
      ∃ kind p size, run.Admits command now authority kind p ∧
        (run.extend (run.transitionFor command now authority.actor kind) p).encodedSizeFor
          command.kind.capacityClass = .ok size ∧
        next = { run.extend (run.transitionFor command now authority.actor kind) p with
          materializationChargeBytes := size } := by
  constructor
  · intro accepted
    obtain ⟨recognized, looked, accepted⟩ := bind_eq_ok.1 accepted
    cases recognized with
    | true => cases accepted
    | false =>
      obtain ⟨valid, looked⟩ := seq_eq_ok.1 looked
      obtain ⟨digest, computed, looked⟩ := bind_eq_ok.1 looked
      obtain ⟨time, accepted⟩ := seq_eq_ok.1 accepted
      obtain ⟨current, accepted⟩ := seq_eq_ok.1 accepted
      obtain ⟨digest', computed', accepted⟩ := bind_eq_ok.1 accepted
      obtain ⟨room, accepted⟩ := seq_eq_ok.1 accepted
      obtain ⟨ordered, accepted⟩ := seq_eq_ok.1 accepted
      obtain ⟨⟨moved, kind⟩, applied, accepted⟩ := bind_eq_ok.1 accepted
      obtain ⟨p, moves, timely, recorded, rfl⟩ := applyKind_eq_ok.1 applied
      obtain ⟨sequence, counted, accepted⟩ := bind_eq_ok.1 accepted
      replace accepted := rest_ok accepted
      obtain ⟨size, sized, accepted⟩ := bind_eq_ok.1 accepted
      cases accepted
      obtain ⟨_, rfl⟩ := numberAfter_eq_ok.1 counted
      obtain ⟨_, rfl⟩ := commandDigest_eq_ok.1 computed'
      have fresh : command.id ∉ run.transitions.map (·.commandId) := by
        split at looked
        · rename_i unused
          exact find?_key_eq_none.1 unused
        · split at looked <;> cases looked
      exact ⟨kind, p, size, ⟨valid, fresh, time, current, room, ordered_eq_ok.1 ordered, moves,
        timely, recorded⟩, sized, rfl⟩
  · rintro ⟨kind, p, size, admits, sized, rfl⟩
    have unused : run.transitions.find? (fun t => t.commandId == command.id) = none :=
      find?_key_eq_none.2 admits.fresh
    have looked : run.recognizesCommand command = .ok false := by
      refine seq_eq_ok.2 ⟨admits.wellFormed, bind_eq_ok.2 ⟨_, admits.small, ?_⟩⟩
      rw [unused]
    refine bind_eq_ok.2 ⟨false, looked, ?_⟩
    refine seq_eq_ok.2 ⟨admits.time, seq_eq_ok.2 ⟨admits.current, ?_⟩⟩
    refine bind_eq_ok.2 ⟨_, admits.small, seq_eq_ok.2 ⟨admits.room, ?_⟩⟩
    refine seq_eq_ok.2 ⟨ordered_eq_ok.2 admits.ordered, ?_⟩
    refine bind_eq_ok.2 ⟨(run.moveTo p, kind),
      applyKind_eq_ok.2 ⟨p, admits.moves, admits.timely, admits.recorded, rfl⟩, ?_⟩
    have counted : checkedSequence run.transitions.length =
        .ok (UInt64.ofNat (run.transitions.length + 1)) :=
      numberAfter_eq_ok.2 ⟨replays.small, rfl⟩
    refine bind_eq_ok.2 ⟨_, counted, seq_eq_ok.2 ⟨admits.valid replays, ?_⟩⟩
    exact bind_eq_ok.2 ⟨_, sized, rfl⟩

/-- A command that was applied before is recognized. -/
theorem recognized_of_duplicate
    (accepted : run.apply command now authority = .ok (next, .duplicate)) :
    run.recognizesCommand command = .ok true ∧ next = run := by
  rcases apply_cases accepted with recognized | ⟨applied, _⟩
  · exact recognized
  · cases applied

/-- It changes nothing. -/
theorem eq_of_duplicate (accepted : run.apply command now authority = .ok (next, .duplicate)) :
    next = run :=
  (recognized_of_duplicate accepted).2

end WorkflowRun

end Paths

end YHarness.Workflow

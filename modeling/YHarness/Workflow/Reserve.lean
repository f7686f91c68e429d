/-
# YHarness.Workflow.Reserve -- a Run can always be ended

Work commands stop at 4096 transitions and at 16 MiB, and the commands that settle
a wait or the Run may go beyond.  `Reserved` bounds what they can use up: a waiting
Run is within the limits of work, and a running one has spent at most one recovery
beyond them.  Since a recovery is small (`recoveryBytes`) and a terminal command
takes its text at most twice, the reserve always holds one more
(`settlement_reserve`).
-/
import YHarness.Workflow.Commands

namespace YHarness.Workflow

open YHarness.Lib YHarness.Kernel

set_option autoImplicit false

variable {V : Type}

/-! ## Texts -/

theorem identity_len {kind value : String} (valid : validateIdentity kind value = .ok ()) :
    stringLen value ≤ 514 :=
  plainText_len valid

theorem idempotencyKey_len {kind value : String}
    (valid : validateIdempotencyKey kind value = .ok ()) : stringLen value ≤ 514 :=
  plainText_len valid

theorem wakeReason_len (reason : WorkflowWakeReason) : reason.toJson.encodedLen ≤ 20 := by
  cases reason <;> decide

theorem WorkflowStatus.isWaiting_of_isTerminal {status : WorkflowStatus}
    (terminal : status.isTerminal = true) : status.isWaiting = false := by
  cases status with
  | waiting wait => cases terminal
  | _ => rfl

/-! ## Sizes -/

section Sizes

variable [SemVer V]

/-- The most bytes one recovery adds to a Run. -/
def recoveryBytes : Nat := 5000

variable {signals : List WorkflowSignalId} {p p' : WorkflowProjection V}
  {waits : List WorkflowWaitId} {t : WorkflowTransition V}

/-- A signal or a due boundary takes few bytes, whatever wait it settles. -/
theorem Moves.recovery_len {now : UInt64} {kind : WorkflowTransitionKind V}
    (moves : Moves waits signals now p kind p') (running : p'.status = .running)
    (identified : ∀ wait, p.status = .waiting wait →
      validateIdentity "Workflow wait" wait.id = .ok ()) : kind.toJson.encodedLen ≤ 2000 := by
  have keys : ∀ key ∈ ["event", "signal_delivered", "wait_id", "signal_id", "name", "source",
      "idempotency_key", "wait_due", "reason"], stringLen key ≤ 20 := by decide
  simp only [List.forall_mem_cons] at keys
  cases moves with
  | signal identity named sourced keyed =>
    have waitLen := identity_len (identified _ rfl)
    have signalLen := identity_len identity
    have nameLen := capabilityName_len named
    have sourceLen := capabilityName_len sourced
    have keyLen := idempotencyKey_len keyed
    simp only [WorkflowWait.id] at waitLen
    simp only [WorkflowTransitionKind.toJson, Json.encodedLen, fieldsLen, List.length_cons,
      List.length_nil]
    omega
  | @due _ _ _ reason =>
    have waitLen := identity_len (identified _ rfl)
    have reasonLen := wakeReason_len reason
    simp only [WorkflowTransitionKind.toJson, Json.encodedLen, fieldsLen, List.length_cons,
      List.length_nil]
    omega
  | _ => cases running

/-- A move is work that ends in a wait, settles a wait, or ends the Run. -/
theorem Moves.classes {now : UInt64} {kind : WorkflowTransitionKind V}
    (moves : Moves waits signals now p kind p') :
    (kind.capacityClass = .work ∧ p'.status.isWaiting = true) ∨
      (p.status.isWaiting = true ∧ p'.status = .running ∧ p'.definition = p.definition) ∨
      p'.status.isTerminal = true := by
  cases moves with
  | wait | migrate => exact .inl ⟨rfl, rfl⟩
  | signal | due => exact .inr (.inl ⟨rfl, rfl, rfl⟩)
  | complete | fail | cancel => exact .inr (.inr rfl)

/-- A transition takes what it records and little more. -/
theorem transition_len (id : validateIdentity "Workflow command" t.commandId = .ok ())
    (lower : isLowerSha256 t.commandSha256 = true) {kind : String}
    (actor : t.actor.validateCurrentMessage kind = .ok ()) :
    t.toJson.encodedLen ≤ t.kind.toJson.encodedLen + 2000 := by
  have keys : ∀ key ∈ ["sequence", "command_id", "command_sha256", "applied_at_ms", "actor",
      "kind"], stringLen key ≤ 16 := by decide
  simp only [List.forall_mem_cons] at keys
  have sequenceLen := jsonU64_len t.sequence
  have idLen := identity_len id
  have digestLen := lowerSha256_len lower
  have timeLen := jsonU64_len t.appliedAtMs
  have actorLen := actor_len actor
  simp only [WorkflowTransition.toJson, Json.encodedLen, fieldsLen, List.length_cons,
    List.length_nil]
  omega

/-- A transition that keeps the definition adds itself, a comma and its status. -/
theorem WorkflowRun.extend_len {run : WorkflowRun V} {p : WorkflowProjection V}
    (definition : p.definition = run.definition) (taskGraph : p.taskGraphId = run.taskGraphId) :
    (run.extend t p).toJson.encodedLen ≤
      run.toJson.encodedLen + p.status.toJson.encodedLen + t.toJson.encodedLen + 1 := by
  simp only [WorkflowRun.extend, WorkflowRun.moveTo, WorkflowRun.toJson, Json.encodedLen,
    fieldsLen, List.length_cons, List.length_nil, List.length_map, List.length_append,
    List.map_append, List.map_cons, List.map_nil, valuesLen_append, valuesLen, definition,
    taskGraph]
  omega

end Sizes

/-! ## The reserve -/

section Paths

variable [SemVer V] [Sha256]

variable {ts : List (WorkflowTransition V)} {p : WorkflowProjection V}

/-- An open wait was checked when it was opened. -/
theorem Replays.identified (replays : Replays ts p) {wait : WorkflowWait}
    (waiting : p.status = .waiting wait) :
    validateIdentity "Workflow wait" wait.id = .ok () := by
  induction replays generalizing wait with
  | created _ creation =>
    rw [creation.status] at waiting
    cases waiting
  | @moved _ _ _ t _ _ moves ih =>
    generalize t.kind = kind at moves
    cases moves with
    | wait valid =>
      cases waiting
      exact (seq_eq_ok.1 valid).1
    | migrate => exact ih waiting
    | _ => cases waiting

/-- The time of a history is positive. -/
theorem Replays.time (replays : Replays ts p) {now : UInt64} (ordered : lastTime ts ≤ now) :
    validateApplicationTime now = .ok () := by
  have positive : 0 < lastTime ts := by
    cases replays with
    | @created t _ recorded | @moved _ _ _ t _ recorded =>
      have time := recorded.time
      rw [validateApplicationTime, rejectIf_eq_ok, beq_eq_false_iff_ne] at time
      simpa [lastTime] using UInt64.pos_iff_ne_zero.2 time
  rw [validateApplicationTime, rejectIf_eq_ok, beq_eq_false_iff_ne]
  rintro rfl
  exact absurd positive (UInt64.not_lt.2 ordered)

namespace WorkflowRun

/-- What a Run that may go on has left of its limits. -/
structure Reserved (run : WorkflowRun V) : Prop where
  waiting : run.status.isWaiting = true →
    run.transitions.length ≤ maxWorkflowWorkTransitions ∧
      run.toJson.encodedLen ≤ maxWorkflowWorkJsonBytes
  running : run.status = .running →
    run.transitions.length ≤ maxWorkflowWorkTransitions + 1 ∧
      run.toJson.encodedLen ≤ maxWorkflowWorkJsonBytes + recoveryBytes

omit [Sha256] in
theorem Reserved.live {run : WorkflowRun V} (reserved : run.Reserved)
    (live : run.status.isTerminal = false) :
    run.transitions.length ≤ maxWorkflowWorkTransitions + 1 ∧
      run.toJson.encodedLen ≤ maxWorkflowWorkJsonBytes + recoveryBytes := by
  cases status : run.status with
  | running => exact reserved.running status
  | waiting wait =>
    obtain ⟨count, size⟩ := reserved.waiting (by rw [status]; rfl)
    omega
  | _ =>
    rw [status] at live
    cases live

omit [Sha256] in
theorem encodedSizeFor_eq_ok {run : WorkflowRun V} {capacityClass : WorkflowCapacityClass}
    {size : Nat} :
    run.encodedSizeFor capacityClass = .ok size ↔
      (run.toJson.encodedLen ≤ maxWorkflowJsonBytes ∧
        (capacityClass = .work → run.toJson.encodedLen ≤ maxWorkflowWorkJsonBytes)) ∧
        size = run.toJson.encodedLen := by
  rw [encodedSizeFor, seq_eq_ok, validateMaterializationCapacity_eq_ok, ok_eq_ok]

/-- A Run of one creation is far from the limits of work. -/
theorem created_len (now : UInt64) (charge : Nat) {request : WorkflowCreateRequest V}
    {actor : ActorIdentity} {digest kind : String} (valid : validateCreateRequest request = .ok ())
    (digested : commandDigest request.toJson = .ok digest)
    (current : actor.validateCurrentMessage kind = .ok ()) :
    (WorkflowRun.toJson ⟨request.definition, request.taskGraphId, .running,
      [⟨1, request.commandId, digest, now, actor,
        .created request.definition request.taskGraphId⟩], charge⟩).encodedLen ≤
      maxWorkflowWorkJsonBytes := by
  have keys : ∀ key ∈ ["command_id", "definition", "task_graph_id", "status", "running",
      "transitions", "event", "created"], stringLen key ≤ 20 := by decide
  simp only [List.forall_mem_cons] at keys
  obtain ⟨commandId, valid⟩ := seq_eq_ok.1 valid
  obtain ⟨_, taskGraph⟩ := seq_eq_ok.1 valid
  obtain ⟨small, rfl⟩ := commandDigest_eq_ok.1 digested
  have requestLen : request.toJson.encodedLen ≤ 131072 := small
  simp only [WorkflowCreateRequest.toJson, Json.encodedLen, fieldsLen] at requestLen
  have graphLen := identity_len taskGraph
  have transitionLen := transition_len (t := ⟨1, request.commandId,
    Sha256.digest (.json request.toJson), now, actor,
    .created request.definition request.taskGraphId⟩) commandId (Sha256.digest_lower _) current
  simp only [WorkflowTransitionKind.toJson, Json.encodedLen, fieldsLen, List.length_cons,
    List.length_nil] at transitionLen
  show _ ≤ 16777216
  simp only [WorkflowRun.toJson, WorkflowStatus.toJson, Json.encodedLen, fieldsLen, valuesLen,
    List.length_cons, List.length_nil, List.map_cons, List.map_nil]
  omega

theorem Reserved.new {request : WorkflowCreateRequest V} {now : UInt64}
    {authority : AuthorityContext} {run : WorkflowRun V}
    (created : WorkflowRun.new request now authority = .ok run) : run.Reserved := by
  obtain ⟨valid, created⟩ := seq_eq_ok.1 created
  replace created := rest_ok created
  obtain ⟨current, created⟩ := seq_eq_ok.1 created
  obtain ⟨digest, digested, created⟩ := bind_eq_ok.1 created
  replace created := rest_ok created
  obtain ⟨_, _, created⟩ := bind_eq_ok.1 created
  cases created
  refine ⟨nofun, fun _ => ⟨?_, ?_⟩⟩
  · rw [List.length_singleton]
    decide
  · exact Nat.le_add_right_of_le
      (created_len now _ valid digested (mapError_eq_ok.1 (seq_eq_ok.1 current).1))

variable {authority : AuthorityContext}

theorem Admits.transition_len {run : WorkflowRun V} {command : WorkflowCommand V} {now : UInt64}
    {kind : WorkflowTransitionKind V} {p : WorkflowProjection V}
    (admits : run.Admits command now authority kind p) :
    (run.transitionFor command now authority.actor kind).toJson.encodedLen ≤
      kind.toJson.encodedLen + 2000 :=
  Workflow.transition_len (seq_eq_ok.1 admits.wellFormed).1 (Sha256.digest_lower _)
    (mapError_eq_ok.1 (seq_eq_ok.1 admits.current).1)

/-- A command leaves the reserve to the next one. -/
theorem Reserved.apply {run next : WorkflowRun V} {command : WorkflowCommand V} {now : UInt64}
    {authority : AuthorityContext} (replays : Replays run.transitions run.projection)
    (reserved : run.Reserved) (accepted : run.apply command now authority = .ok (next, .applied)) :
    next.Reserved := by
  obtain ⟨kind, p, size, admits, sized, rfl⟩ := (apply_eq_applied replays).1 accepted
  obtain ⟨_, ofWork⟩ := (encodedSizeFor_eq_ok.1 sized).1
  obtain ⟨_, below⟩ := validateTransitionCapacity_eq_ok.1 admits.room
  rw [← capacityClass_recorded admits.recorded] at ofWork below
  have length : (run.transitions ++ [run.transitionFor command now authority.actor kind]).length
      = run.transitions.length + 1 := by
    rw [List.length_append, List.length_singleton]
  rcases admits.moves.classes with ⟨work, waiting⟩ | ⟨waiting, running, definition⟩ | terminal
  · refine ⟨fun _ => ⟨?_, ofWork work⟩, fun runs => ?_⟩
    · exact length ▸ below work
    · have running : p.status = .running := runs
      rw [running] at waiting
      cases waiting
  · -- the recovery goes beyond the limits of work by its own transition
    obtain ⟨count, bytes⟩ := reserved.waiting waiting
    have kindLen := admits.moves.recovery_len running fun wait waits => replays.identified waits
    have transitionLen := admits.transition_len
    have total := extend_len (t := run.transitionFor command now authority.actor kind) definition
      admits.moves.taskGraphId
    have statusLen : p.status.toJson.encodedLen ≤ 30 := by
      rw [running]
      decide
    refine ⟨fun waits => ?_, fun _ => ⟨?_, ?_⟩⟩
    · have waits : p.status.isWaiting = true := waits
      rw [running] at waits
      cases waits
    · exact length ▸ Nat.add_le_add_right count 1
    · show _ ≤ maxWorkflowWorkJsonBytes + 5000
      refine le_trans total ?_
      omega
  · refine ⟨fun waits => ?_, fun runs => ?_⟩
    · have waits : p.status.isWaiting = true := waits
      rw [WorkflowStatus.isWaiting_of_isTerminal terminal] at waits
      cases waits
    · have running : p.status = .running := runs
      rw [running] at terminal
      cases terminal

theorem Reachable.reserved {run : WorkflowRun V} (reached : Reachable run) : run.Reserved := by
  induction reached with
  | new created => exact .new created
  | @apply run next reached command now authority outcome accepted ih =>
    cases outcome with
    | applied => exact ih.apply reached.replays accepted
    | duplicate =>
      rw [eq_of_duplicate accepted]
      exact ih

/-- A command that ends a Run, recorded as `kind`, fits the reserve. -/
theorem Reserved.settles {run : WorkflowRun V} {command : WorkflowCommand V} {now : UInt64}
    {kind : WorkflowTransitionKind V} {status : WorkflowStatus}
    (replays : Replays run.transitions run.projection) (reserved : run.Reserved)
    (live : run.status.isTerminal = false)
    (admits : run.Admits command now authority kind ⟨run.definition, run.taskGraphId, status⟩)
    (settles : command.kind.capacityClass = .settlement)
    (texts : kind.toJson.encodedLen + status.toJson.encodedLen ≤
      2 * maxWorkflowCommandJsonBytes + 200) :
    ∃ next, run.apply command now authority = .ok (next, .applied) ∧ next.status = status := by
  obtain ⟨_, bytes⟩ := reserved.live live
  have transitionLen := admits.transition_len
  have total : (run.extend (run.transitionFor command now authority.actor kind)
      ⟨run.definition, run.taskGraphId, status⟩).toJson.encodedLen ≤ _ := extend_len rfl rfl
  refine ⟨_, (apply_eq_applied replays).2 ⟨_, _, _, admits, encodedSizeFor_eq_ok.2
    ⟨⟨?_, fun work => ?_⟩, rfl⟩, rfl⟩, rfl⟩
  · refine le_trans total ?_
    show _ ≤ maxWorkflowWorkJsonBytes + (maxWorkflowCommandJsonBytes * 2 + 16384)
    have recovery : recoveryBytes = 5000 := rfl
    dsimp only
    omega
  · rw [settles] at work
    cases work

/-- **A Run that has not ended can always be ended**: a new failure or cancellation
that is well formed and not dated back is applied, however much of the limits the
history has used. -/
theorem settlement_reserve {run : WorkflowRun V} (reached : Reachable run)
    (live : run.status.isTerminal = false) {id : WorkflowCommandId} {reason : String}
    {now : UInt64} {authority : AuthorityContext}
    (fresh : id ∉ run.transitions.map (·.commandId)) (ordered : lastTime run.transitions ≤ now)
    (current : authority.validateCurrent "Workflow command authority" = .ok ()) :
    (validateCommand (⟨id, .fail reason⟩ : WorkflowCommand V) = .ok () →
      validateText "Workflow failure reason" reason = .ok () →
      ∃ next, run.apply ⟨id, .fail reason⟩ now authority = .ok (next, .applied) ∧
        next.status = .failed reason) ∧
    (validateCommand (⟨id, .cancel reason⟩ : WorkflowCommand V) = .ok () →
      validateText "Workflow cancellation reason" reason = .ok () →
      ∃ next, run.apply ⟨id, .cancel reason⟩ now authority = .ok (next, .applied) ∧
        next.status = .cancelled reason) := by
  have keys : ∀ key ∈ ["id", "kind", "action", "event", "status", "reason", "fail", "failed",
      "cancel", "cancelled"], stringLen key ≤ 12 := by decide
  simp only [List.forall_mem_cons] at keys
  have replays := reached.replays
  have room : validateTransitionCapacity run.transitions.length .settlement = .ok () := by
    refine validateTransitionCapacity_eq_ok.2 ⟨?_, nofun⟩
    exact lt_of_le_of_lt (reached.reserved.live live).1 (by decide)
  have sized : ∀ {kind : WorkflowCommandKind V},
      validateCommand (⟨id, kind⟩ : WorkflowCommand V) = .ok () →
        (WorkflowCommand.toJson ⟨id, kind⟩).encodedLen ≤ maxWorkflowCommandJsonBytes := by
    intro kind valid
    obtain ⟨digest, computed, _⟩ := bind_eq_ok.1 (seq_eq_ok.1 valid).2
    exact (commandDigest_eq_ok.1 computed).1
  constructor
  · intro valid text
    have bytes := sized valid
    refine reached.reserved.settles replays live ⟨valid, fresh, replays.time ordered, current,
      room, ordered, .fail live text, trivial, rfl⟩ rfl ?_
    simp only [WorkflowCommand.toJson, WorkflowCommandKind.toJson, Json.encodedLen,
      fieldsLen] at bytes
    simp only [WorkflowTransitionKind.toJson, WorkflowStatus.toJson, Json.encodedLen, fieldsLen,
      List.length_cons, List.length_nil]
    omega
  · intro valid text
    have bytes := sized valid
    refine reached.reserved.settles replays live ⟨valid, fresh, replays.time ordered, current,
      room, ordered, .cancel live text, trivial, rfl⟩ rfl ?_
    simp only [WorkflowCommand.toJson, WorkflowCommandKind.toJson, Json.encodedLen,
      fieldsLen] at bytes
    simp only [WorkflowTransitionKind.toJson, WorkflowStatus.toJson, Json.encodedLen, fieldsLen,
      List.length_cons, List.length_nil]
    omega

end WorkflowRun

end Paths

namespace WorkflowRun

section Sample

attribute [local instance] constantSha256

theorem settlement_reserve_sample :
    (∃ next, sampleWaiting.apply ⟨"stop", .fail "no longer needed"⟩ 210 .localProcess =
        .ok (next, .applied) ∧ next.status = .failed "no longer needed") ∧
      ∃ next, sampleWaiting.apply ⟨"stop", .cancel "no longer needed"⟩ 210 .localProcess =
        .ok (next, .applied) ∧ next.status = .cancelled "no longer needed" := by
  have live : sampleWaiting.status.isTerminal = false := by decide +kernel
  have fresh : "stop" ∉ sampleWaiting.transitions.map (·.commandId) := by decide +kernel
  have ordered : lastTime sampleWaiting.transitions ≤ 210 := by decide +kernel
  have current : AuthorityContext.localProcess.validateCurrent "Workflow command authority" =
      .ok () := by decide +kernel
  obtain ⟨fails, cancels⟩ := settlement_reserve sampleWaiting_reachable live fresh ordered current
  exact ⟨fails (by decide +kernel) (by decide +kernel),
    cancels (by decide +kernel) (by decide +kernel)⟩

end Sample

end WorkflowRun

end YHarness.Workflow

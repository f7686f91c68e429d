/-
# YHarness.Workflow.Agreement -- the command path and the replay path

Every Run that commands build replays to its record, and its stored revision counts
its transitions.  The other way round the replay accepts more than commands record:
it takes the legacy actor that only migrations preserve, and waits that ended before
they were opened.  A validated history without either (`Commanded`) is rebuilt by
its own commands, as long as its encodings stay within the byte ceilings (`Fits`).
-/
import YHarness.Workflow.Coordinator
import YHarness.Workflow.Reserve

namespace YHarness.Workflow

open YHarness.Lib YHarness.Kernel

set_option autoImplicit false

variable {V : Type}

/-! ## What commands record -/

/-- A transition as a command records it: by a current actor, and opening no wait
that is already over. -/
structure WorkflowTransition.Commanded (t : WorkflowTransition V) : Prop where
  current : t.actor ≠ .unattributedLegacy
  timely : t.kind.Timely t.appliedAtMs

theorem current_of_authority {kind : String} {authority : AuthorityContext}
    (current : authority.validateCurrent kind = .ok ()) :
    authority.actor ≠ .unattributedLegacy := by
  intro legacy
  have message := mapError_eq_ok.1 (seq_eq_ok.1 current).1
  have shape := (seq_eq_ok.1 message).2
  rw [legacy, rejectIf_eq_ok] at shape
  cases shape

theorem validateCurrent_of_shape {kind : String} {actor : ActorIdentity}
    (shape : validateActorShape actor = .ok ()) (current : actor ≠ .unattributedLegacy) :
    AuthorityContext.validateCurrent kind ⟨actor, none⟩ = .ok () := by
  have message : actor.validateCurrentMessage "Workflow transition actor" = .ok () := by
    refine seq_eq_ok.2 ⟨mapError_eq_ok.1 (mapError_eq_ok.1 shape), ?_⟩
    rw [rejectIf_eq_ok, beq_eq_false_iff_ne]
    exact current
  exact seq_eq_ok.2 ⟨mapError_eq_ok.2 (currentMessage_kind message), rfl⟩

section Paths

variable [SemVer V] [Sha256]

namespace WorkflowRun

variable {p p' : WorkflowProjection V} {t : WorkflowTransition V} {run : WorkflowRun V}
  {past : List (WorkflowTransition V)} {ts : List (WorkflowTransition V)}
  {command : WorkflowCommandKind V}

theorem commanded_new {request : WorkflowCreateRequest V} {appliedAtMs : UInt64}
    {authority : AuthorityContext}
    (created : WorkflowRun.new request appliedAtMs authority = .ok run) :
    ∀ t ∈ run.transitions, t.Commanded := by
  replace created := rest_ok (rest_ok created)
  obtain ⟨current, created⟩ := seq_eq_ok.1 created
  obtain ⟨_, _, created⟩ := bind_eq_ok.1 created
  replace created := rest_ok created
  obtain ⟨_, _, created⟩ := bind_eq_ok.1 created
  cases created
  intro t member
  obtain rfl := List.mem_singleton.1 member
  exact ⟨current_of_authority current, trivial⟩

/-- **Commands only record current actors and waits to come.** -/
theorem Reachable.commanded (reached : Reachable run) :
    ∀ t ∈ run.transitions, t.Commanded := by
  induction reached with
  | new created => exact commanded_new created
  | @apply run next reached command now authority outcome accepted ih =>
    cases outcome with
    | duplicate =>
      rw [eq_of_duplicate accepted]
      exact ih
    | applied =>
      obtain ⟨kind, p, size, admits, _, rfl⟩ := (apply_eq_applied reached.replays).1 accepted
      intro t member
      rcases List.mem_append.1 member with earlier | last
      · exact ih t earlier
      · obtain rfl := List.mem_singleton.1 last
        exact ⟨current_of_authority admits.current, admits.timely⟩

/-! ## Rebuilding a Run -/

/-- The Run a history describes. -/
def ofHistory (p : WorkflowProjection V) (ts : List (WorkflowTransition V)) : WorkflowRun V :=
  ⟨p.definition, p.taskGraphId, p.status, ts, 0⟩

/-- A Run with the charge of its own encoding. -/
def charged (run : WorkflowRun V) : WorkflowRun V :=
  { run with materializationChargeBytes := run.toJson.encodedLen }

/-- The command a transition records, as it was applied.  A Run does not record
tenants, so any will do. -/
def recordedCommand (t : WorkflowTransition V) :
    Except HarnessError (WorkflowCommand V × UInt64 × AuthorityContext) := do
  let kind ← orError (.workflow "Workflow creation must be the first transition")
    (transitionCommandKind t.kind)
  .ok (⟨t.commandId, kind⟩, t.appliedAtMs, ⟨t.actor, none⟩)

/-- Build a Run again from the creation and the commands its transitions record. -/
def rebuild : List (WorkflowTransition V) → Except HarnessError (WorkflowRun V)
  | [] => .error (.workflow "Workflow creation must be the first transition")
  | first :: rest =>
    match first.kind with
    | .created definition taskGraphId => do
      let run ← WorkflowRun.new ⟨first.commandId, definition, taskGraphId⟩ first.appliedAtMs
        ⟨first.actor, none⟩
      let commands ← rest.mapM recordedCommand
      run.applyAll commands
    | _ => .error (.workflow "Workflow creation must be the first transition")

/-- No command that extends a part of the history exceeds its byte ceiling. -/
def Fits (ts : List (WorkflowTransition V)) : Prop :=
  ∀ past t rest p, ts = past ++ t :: rest → past ≠ [] → Replays (past ++ [t]) p →
    ∃ size, (ofHistory p (past ++ [t])).encodedSizeFor t.kind.capacityClass = .ok size

omit [Sha256] in
/-- A move other than a creation is some command's. -/
theorem command_of_moves {waits : List WorkflowWaitId} {signals : List WorkflowSignalId}
    {now : UInt64} {kind : WorkflowTransitionKind V} (moves : Moves waits signals now p kind p') :
    ∃ command, transitionCommandKind kind = some command := by
  cases moves with
  | @wait _ _ wait => cases wait <;> exact ⟨_, rfl⟩
  | _ => exact ⟨_, rfl⟩

/-- **A recorded transition is what its command does.** -/
theorem apply_recorded {size : Nat} (replays : Replays past p) (recorded : Recorded past t)
    (commanded : t.Commanded)
    (moves : Moves (waitsOf past) (signalsOf past) t.appliedAtMs p t.kind p')
    (count : past.length < maxWorkflowTransitions)
    (kind : transitionCommandKind t.kind = some command)
    (fits : (ofHistory p' (past ++ [t])).encodedSizeFor t.kind.capacityClass = .ok size) :
    (ofHistory p past).charged.apply ⟨t.commandId, command⟩ t.appliedAtMs ⟨t.actor, none⟩ =
      .ok ((ofHistory p' (past ++ [t])).charged, .applied) := by
  have named : recordedJson t.commandId t.kind = WorkflowCommand.toJson ⟨t.commandId, command⟩ :=
    recordedJson_eq kind
  have digest := recorded.digest
  rw [transitionDigest, named] at digest
  obtain ⟨small, digested⟩ := commandDigest_eq_ok.1 digest
  have admits : (ofHistory p past).charged.Admits ⟨t.commandId, command⟩ t.appliedAtMs
      ⟨t.actor, none⟩ t.kind p' := by
    refine ⟨?_, recorded.fresh, recorded.time,
      validateCurrent_of_shape recorded.actor commanded.current, ?_, recorded.ordered, moves,
      commanded.timely, kind⟩
    · exact seq_eq_ok.2 ⟨recorded.commandId, bind_eq_ok.2 ⟨_, digest, rfl⟩⟩
    · refine validateTransitionCapacity_eq_ok.2 ⟨count, fun work => ?_⟩
      exact recorded.room ((capacityClass_recorded kind).trans work)
  have same : (ofHistory p past).charged.transitionFor ⟨t.commandId, command⟩ t.appliedAtMs
      t.actor t.kind = t := by
    rw [transitionFor, ← digested]
    show (⟨UInt64.ofNat (past.length + 1), _, _, _, _, _⟩ : WorkflowTransition V) = t
    rw [← recorded.sequence]
  obtain rfl := (encodedSizeFor_eq_ok.1 fits).2
  refine (apply_eq_applied replays).2 ⟨t.kind, p',
    (ofHistory p' (past ++ [t])).toJson.encodedLen, admits, ?_, ?_⟩
  · rw [same, ← capacityClass_recorded kind]
    exact fits
  · rw [same]
    rfl

theorem rebuild_concat {run next : WorkflowRun V} {outcome : WorkflowApplyOutcome}
    (built : rebuild past = .ok run) (kind : transitionCommandKind t.kind = some command)
    (accepted : run.apply ⟨t.commandId, command⟩ t.appliedAtMs ⟨t.actor, none⟩ =
      .ok (next, outcome)) : rebuild (past ++ [t]) = .ok next := by
  have recorded : recordedCommand t =
      .ok (⟨t.commandId, command⟩, t.appliedAtMs, ⟨t.actor, none⟩) :=
    bind_eq_ok.2 ⟨_, orError_eq_ok.2 kind, rfl⟩
  have last : run.applyAll [(⟨t.commandId, command⟩, t.appliedAtMs, ⟨t.actor, none⟩)] =
      .ok next := bind_eq_ok.2 ⟨_, bind_eq_ok.2 ⟨_, accepted, rfl⟩, rfl⟩
  cases past with
  | nil => cases built
  | cons first rest =>
    obtain ⟨sequence, commandId, commandSha256, now, actor, shape⟩ := first
    cases shape with
    | created =>
      obtain ⟨start, created, built⟩ := bind_eq_ok.1 built
      obtain ⟨commands, read, ran⟩ := bind_eq_ok.1 built
      refine bind_eq_ok.2 ⟨_, created, bind_eq_ok.2 ⟨commands ++ [_], ?_,
        foldlM_append_eq_ok.2 ⟨_, ran, last⟩⟩⟩
      rw [mapM_eq_ok] at read ⊢
      exact List.rel_append read (.cons recorded .nil)
    | _ => cases built

theorem rebuild_created {p : WorkflowProjection V} (recorded : Recorded [] t)
    (creation : Creation t p) (commanded : t.Commanded) :
    rebuild [t] = .ok (ofHistory p [t]).charged := by
  have replays : Replays [t] p := .created recorded creation
  obtain ⟨sequence, commandId, commandSha256, now, actor, shape⟩ := t
  obtain rfl : shape = _ := creation.kind
  obtain rfl : sequence = 1 := recorded.sequence
  obtain ⟨definition, taskGraphId, status⟩ := p
  obtain rfl : status = .running := creation.status
  have digest : commandDigest (WorkflowCreateRequest.toJson ⟨commandId, definition, taskGraphId⟩) =
      .ok commandSha256 := recorded.digest
  have request : validateCreateRequest (⟨commandId, definition, taskGraphId⟩ :
      WorkflowCreateRequest V) = .ok () :=
    seq_eq_ok.2 ⟨recorded.commandId, seq_eq_ok.2 ⟨creation.definition, creation.taskGraph⟩⟩
  have current : AuthorityContext.validateCurrent "Workflow creation authority" ⟨actor, none⟩ =
      .ok () := validateCurrent_of_shape recorded.actor commanded.current
  have size := created_len now 0 request digest
    (mapError_eq_ok.1 (seq_eq_ok.1 current).1)
  refine bind_eq_ok.2 ⟨_, ?_, bind_eq_ok.2 ⟨[], rfl, rfl⟩⟩
  refine seq_eq_ok.2 ⟨request, seq_eq_ok.2 ⟨recorded.time, seq_eq_ok.2 ⟨current, ?_⟩⟩⟩
  refine bind_eq_ok.2 ⟨_, digest, seq_eq_ok.2 ⟨?_, bind_eq_ok.2 ⟨_, ?_, rfl⟩⟩⟩
  · exact validate_eq_ok.2 ⟨by rw [List.length_singleton]; decide, replays⟩
  · exact encodedSizeFor_eq_ok.2 ⟨⟨le_trans size (by decide), nofun⟩, rfl⟩

/-- **A history that commands could record rebuilds itself.** -/
theorem rebuild_history {p : WorkflowProjection V} (replays : Replays ts p)
    (count : ts.length ≤ maxWorkflowTransitions) (commanded : ∀ t ∈ ts, t.Commanded)
    (fits : Fits ts) :
    rebuild ts = .ok (ofHistory p ts).charged := by
  induction replays with
  | created recorded creation =>
    exact rebuild_created recorded creation (commanded _ (List.mem_singleton_self _))
  | @moved past p p' t replays recorded moves ih =>
    rw [List.length_append, List.length_singleton] at count
    have earlier : Fits past := by
      intro before s rest q parts
      refine fits before s (rest ++ [t]) q ?_
      rw [parts, List.append_assoc, List.cons_append]
    have built := ih (by omega) (fun s member => commanded s (List.mem_append_left _ member))
      earlier
    obtain ⟨command, kind⟩ := command_of_moves moves
    obtain ⟨size, sized⟩ := fits past t [] p' rfl replays.ne_nil (.moved replays recorded moves)
    have accepted := apply_recorded replays recorded (commanded t (by simp)) moves (by omega) kind
      sized
    exact rebuild_concat built kind accepted

/-- A history projects to one record. -/
theorem projection_unique (left : Replays ts p) (right : Replays ts p') : p = p' := by
  have first := Replay.run_eq_ok.2 (.inr ⟨_, left, rfl⟩)
  have second := Replay.run_eq_ok.2 (.inr ⟨_, right, rfl⟩)
  obtain same := Except.ok.inj (first.symm.trans second)
  have definition := Option.some.inj (congrArg Replay.definition same)
  have taskGraph := Option.some.inj (congrArg Replay.taskGraph same)
  have status := Option.some.inj (congrArg Replay.status same)
  cases p
  cases p'
  dsimp only at definition taskGraph status
  rw [definition, taskGraph, status]

/-- Commands stay within their byte ceilings. -/
theorem Reachable.fits (reached : Reachable run) : Fits run.transitions := by
  induction reached with
  | @new request appliedAtMs authority run created =>
    intro past t rest p parts later _
    obtain ⟨u, single⟩ := List.length_eq_one_iff.1 (length_new created)
    rw [single] at parts
    exact absurd (singleton_eq_split parts) later
  | @apply run next reached command now authority outcome accepted ih =>
    cases outcome with
    | duplicate =>
      rw [eq_of_duplicate accepted]
      exact ih
    | applied =>
      obtain ⟨kind, p, size, admits, sized, rfl⟩ :=
        (apply_eq_applied reached.replays).1 accepted
      intro past t rest q parts later replays
      rcases concat_eq_split parts with ⟨_, rfl, rfl⟩ | ⟨rest, rfl, earlier⟩
      · have same := projection_unique replays
          (Reachable.apply reached accepted).replays
        subst same
        rw [← capacityClass_recorded admits.recorded] at sized
        exact ⟨size, sized⟩
      · exact ih past t rest q earlier later replays

/-- **The two paths agree.**  A Run that commands build validates; the fold of its
transitions ends in its definition, Task Graph and status, and wherever it is stored
its revision counts them.  And the commands that the transitions of a validated Run
record build it again, the byte ceilings aside, when commands could record them. -/
theorem replay_agrees (run : WorkflowRun V) :
    (Reachable run → run.validate = .ok () ∧
      (∃ r, Replay.run run.transitions = .ok r ∧ r.definition = some run.definition ∧
        r.taskGraph = some run.taskGraphId ∧ r.status = some run.status ∧
        r.expectedSequence.toNat = run.transitions.length + 1) ∧
      ∀ (store : MemoryWorkflowCoordinator V) (key : StoreKey) (snapshot : WorkflowRunSnapshot V),
        store.Reachable → store.runs[key]? = some snapshot → snapshot.run = run →
          snapshot.revision.toNat = run.transitions.length) ∧
    (run.validate = .ok () → (∀ t ∈ run.transitions, t.Commanded) → Fits run.transitions →
      rebuild run.transitions = .ok { run with
        materializationChargeBytes := run.toJson.encodedLen }) := by
  constructor
  · intro reached
    have replays := reached.replays
    refine ⟨reached.valid, ⟨_, Replay.run_eq_ok.2 (.inr ⟨_, replays, rfl⟩), rfl, rfl, rfl, ?_⟩, ?_⟩
    · exact sequence_toNat replays.small
    · rintro store key snapshot stored found rfl
      exact (stored.stored key snapshot found).revision
  · intro valid commanded fits
    obtain ⟨count, replays⟩ := validate_eq_ok.1 valid
    exact rebuild_history replays count commanded fits

end WorkflowRun

end Paths

/-! ## What the replay accepts beyond commands -/

namespace WorkflowRun

section Sample

attribute [local instance] constantSha256

/-- A created Run whose creation is attributed to the legacy actor. -/
def legacyRun : WorkflowRun ReleaseVersion :=
  { sampleRun with
    transitions := sampleRun.transitions.map fun t => { t with actor := .unattributedLegacy } }

/-- A Run with a timer that was due before it was started. -/
def overdueRun : WorkflowRun ReleaseVersion :=
  { sampleRun with
    status := .waiting (.timer "timer" 5)
    transitions := sampleRun.transitions ++
      [⟨2, "sleep", Sha256.digest (.json .null), 20, .localProcess,
        .waitStarted (.timer "timer" 5)⟩] }

/-- **The replay accepts more than commands record.**  Neither Run is built by any
commands, whatever its charge. -/
theorem replay_accepts_more :
    (legacyRun.validate = .ok () ∧
      ∀ charge, ¬ Reachable { legacyRun with materializationChargeBytes := charge }) ∧
    (overdueRun.validate = .ok () ∧
      ∀ charge, ¬ Reachable { overdueRun with materializationChargeBytes := charge }) := by
  refine ⟨⟨by decide +kernel, fun charge reached => ?_⟩, by decide +kernel, fun charge reached => ?_⟩
  · have legacy : legacyRun.transitions.any (fun t => t.actor == .unattributedLegacy) = true := by
      decide +kernel
    obtain ⟨t, member, same⟩ := List.any_eq_true.1 legacy
    exact (reached.commanded t member).current (beq_iff_eq.1 same)
  · have opened := (reached.commanded _ (List.mem_append_right _ (List.mem_singleton_self _))).timely
    exact absurd (opened 5 rfl) (by decide)

theorem replay_agrees_sample :
    sampleWaiting.transitions.length = 7 ∧ sampleWaiting.validate = .ok () ∧
      rebuild sampleWaiting.transitions = .ok sampleWaiting := by
  obtain ⟨forward, backward⟩ := replay_agrees sampleWaiting
  have reached := sampleWaiting_reachable
  obtain ⟨valid, _, _⟩ := forward reached
  refine ⟨by decide +kernel, valid, ?_⟩
  rw [backward valid reached.commanded reached.fits]
  decide +kernel

end Sample

end WorkflowRun

end YHarness.Workflow

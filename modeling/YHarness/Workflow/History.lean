/-
# YHarness.Workflow.History -- the histories a Workflow Run may have

`Moves` says what one transition does to the projection of a Run, and `Replays`
which lists of transitions are histories and what they project to.  The replay
path is this relation: `validate_eq_ok` reads an accepted Run as a history of at
most 4098 transitions that projects to the record.
-/
import YHarness.Workflow.Aggregate
import YHarness.Lib.Ledger

namespace YHarness.Workflow

open YHarness.Lib YHarness.Kernel

set_option autoImplicit false

variable {V : Type}

/-- What a Run keeps beside its history. -/
structure WorkflowProjection (V : Type) where
  definition : WorkflowDefinition V
  taskGraphId : TaskGraphId
  status : WorkflowStatus

def WorkflowRun.projection (run : WorkflowRun V) : WorkflowProjection V :=
  ⟨run.definition, run.taskGraphId, run.status⟩

/-! ## Identities of a history -/

namespace WorkflowTransitionKind

/-- The wait a transition opens. -/
def wait? : WorkflowTransitionKind V → Option WorkflowWait
  | waitStarted wait => some wait
  | _ => none

/-- The signal a transition delivers. -/
def signal? : WorkflowTransitionKind V → Option WorkflowSignalId
  | signalDelivered _ signalId _ _ _ => some signalId
  | _ => none

end WorkflowTransitionKind

def waitsOf (past : List (WorkflowTransition V)) : List WorkflowWaitId :=
  past.filterMap fun t => t.kind.wait?.map WorkflowWait.id

def signalsOf (past : List (WorkflowTransition V)) : List WorkflowSignalId :=
  past.filterMap fun t => t.kind.signal?

def lastTime (past : List (WorkflowTransition V)) : UInt64 :=
  (past.getLast?.map WorkflowTransition.appliedAtMs).getD 0

@[simp] theorem lastTime_concat (past : List (WorkflowTransition V)) (t : WorkflowTransition V) :
    lastTime (past ++ [t]) = t.appliedAtMs := by
  simp [lastTime]

theorem waitsOf_concat (past : List (WorkflowTransition V)) (t : WorkflowTransition V) :
    waitsOf (past ++ [t]) = waitsOf past ++ (t.kind.wait?.map WorkflowWait.id).toList := by
  rw [waitsOf, List.filterMap_append]
  cases opened : t.kind.wait? <;> simp [waitsOf, opened]

theorem signalsOf_concat (past : List (WorkflowTransition V)) (t : WorkflowTransition V) :
    signalsOf (past ++ [t]) = signalsOf past ++ t.kind.signal?.toList := by
  rw [signalsOf, List.filterMap_append]
  cases delivered : t.kind.signal? <;> simp [signalsOf, delivered]

/-! ## One transition -/

section Moves

variable [SemVer V]

/-- What a transition at a time may do to a projection, when the given waits and
signals were used before. -/
inductive Moves (waits : List WorkflowWaitId) (signals : List WorkflowSignalId) (now : UInt64) :
    WorkflowProjection V → WorkflowTransitionKind V → WorkflowProjection V → Prop
  | wait {definition : WorkflowDefinition V} {graphId : TaskGraphId} {wait : WorkflowWait}
      (valid : validateWait wait = .ok ()) (fresh : wait.id ∉ waits) :
      Moves waits signals now ⟨definition, graphId, .running⟩ (.waitStarted wait)
        ⟨definition, graphId, .waiting wait⟩
  | signal {definition : WorkflowDefinition V} {graphId : TaskGraphId} {waitId : WorkflowWaitId}
      {signalId : WorkflowSignalId} {name source idempotencyKey : String}
      {expiresAtMs : Option UInt64}
      (identity : validateIdentity "Workflow signal" signalId = .ok ())
      (named : validateCapabilityName "Workflow signal" name = .ok ())
      (sourced : validateCapabilityName "Workflow signal source" source = .ok ())
      (keyed : validateIdempotencyKey "Workflow signal" idempotencyKey = .ok ())
      (fresh : signalId ∉ signals) (early : ∀ expires, expiresAtMs = some expires → now < expires) :
      Moves waits signals now
        ⟨definition, graphId, .waiting (.signal waitId name source expiresAtMs)⟩
        (.signalDelivered waitId signalId name source idempotencyKey)
        ⟨definition, graphId, .running⟩
  | due {definition : WorkflowDefinition V} {graphId : TaskGraphId} {wait : WorkflowWait}
      {reason : WorkflowWakeReason} (due : dueReason wait now = .ok reason) :
      Moves waits signals now ⟨definition, graphId, .waiting wait⟩ (.waitDue wait.id reason)
        ⟨definition, graphId, .running⟩
  | migrate {old new : WorkflowDefinition V} {graphId : TaskGraphId} {wait : WorkflowWait}
      (valid : validateDefinition new = .ok ()) (named : new.name = old.name)
      (newer : old.version < new.version) (changed : new.contentSha256 ≠ old.contentSha256) :
      Moves waits signals now ⟨old, graphId, .waiting wait⟩ (.definitionMigrated old new)
        ⟨new, graphId, .waiting wait⟩
  | complete {definition : WorkflowDefinition V} {graphId : TaskGraphId} {summary : String}
      (text : validateText "Workflow completion summary" summary = .ok ()) :
      Moves waits signals now ⟨definition, graphId, .running⟩ (.completed summary)
        ⟨definition, graphId, .completed summary⟩
  | fail {definition : WorkflowDefinition V} {graphId : TaskGraphId} {status : WorkflowStatus}
      {reason : String} (live : status.isTerminal = false)
      (text : validateText "Workflow failure reason" reason = .ok ()) :
      Moves waits signals now ⟨definition, graphId, status⟩ (.failed reason)
        ⟨definition, graphId, .failed reason⟩
  | cancel {definition : WorkflowDefinition V} {graphId : TaskGraphId} {status : WorkflowStatus}
      {reason : String} (live : status.isTerminal = false)
      (text : validateText "Workflow cancellation reason" reason = .ok ()) :
      Moves waits signals now ⟨definition, graphId, status⟩ (.cancelled reason)
        ⟨definition, graphId, .cancelled reason⟩

variable {kind : WorkflowTransitionKind V} {p p' : WorkflowProjection V}
  {signals : List WorkflowSignalId} {now : UInt64} {waits : List WorkflowWaitId}

/-- A move only asks which identities were used. -/
theorem Moves.congr {waits waits' : List WorkflowWaitId} {signals signals' : List WorkflowSignalId}
    (sameWaits : ∀ id, id ∈ waits' → id ∈ waits) (sameSignals : ∀ id, id ∈ signals' → id ∈ signals)
    (moves : Moves waits signals now p kind p') : Moves waits' signals' now p kind p' := by
  cases moves with
  | wait valid fresh => exact .wait valid fun used => fresh (sameWaits _ used)
  | signal identity named sourced keyed fresh early =>
    exact .signal identity named sourced keyed (fun used => fresh (sameSignals _ used)) early
  | due due => exact .due due
  | migrate valid named newer changed => exact .migrate valid named newer changed
  | complete text => exact .complete text
  | fail live text => exact .fail live text
  | cancel live text => exact .cancel live text

/-- Nothing moves a terminal Run. -/
theorem Moves.live (moves : Moves waits signals now p kind p') : p.status.isTerminal = false := by
  cases moves with
  | fail live | cancel live => exact live
  | _ => rfl

theorem Moves.taskGraphId (moves : Moves waits signals now p kind p') :
    p'.taskGraphId = p.taskGraphId := by
  cases moves <;> rfl

end Moves

/-- Whether the shape of a migration is monotonic. -/
theorem migration_eq_ok [SemVer V] {new old : WorkflowDefinition V} {error : HarnessError} :
    rejectIf (new.name != old.name || decide (new.version ≤ old.version) ||
        new.contentSha256 == old.contentSha256) error = .ok () ↔
      new.name = old.name ∧ old.version < new.version ∧ new.contentSha256 ≠ old.contentSha256 := by
  rw [rejectIf_eq_ok, Bool.or_eq_false_iff, Bool.or_eq_false_iff, bne_eq_false_iff_eq,
    decide_eq_false_iff_not, not_le, beq_eq_false_iff_ne, and_assoc]

theorem early_eq_ok {expiresAtMs : Option UInt64} {now : UInt64} {error : HarnessError} :
    rejectIf (expiresAtMs.any fun expires => decide (expires ≤ now)) error = .ok () ↔
      ∀ expires, expiresAtMs = some expires → now < expires := by
  cases expiresAtMs with
  | none => simp
  | some expires => simp [UInt64.not_le]

namespace Replay

variable [SemVer V]

/-- The loop state after a transition that leads to `p`. -/
def moved (r : Replay V) (kind : WorkflowTransitionKind V) (p : WorkflowProjection V) : Replay V :=
  { r with
    waitIds := (kind.wait?.map WorkflowWait.id).toList ++ r.waitIds
    signalIds := kind.signal?.toList ++ r.signalIds
    definition := some p.definition
    status := some p.status
    taskGraph := some p.taskGraphId }

/-- The loop state projects to `p`. -/
structure Projects (r : Replay V) (p : WorkflowProjection V) : Prop where
  definition : r.definition = some p.definition
  taskGraph : r.taskGraph = some p.taskGraphId
  status : r.status = some p.status

variable {t : WorkflowTransition V}

/-- A transition that is not a creation moves the projection. -/
theorem applyKind_moves {r r' : Replay V} {p : WorkflowProjection V} (projects : r.Projects p)
    (later : t.sequence ≠ 1) (applied : r.applyKind t = .ok r') :
    ∃ p', Moves r.waitIds r.signalIds t.appliedAtMs p t.kind p' ∧ r' = r.moved t.kind p' := by
  obtain ⟨expected, commandIds, waitIds, signalIds, definition, status, graph, time⟩ := r
  obtain ⟨current, graphId, now⟩ := p
  obtain ⟨rfl, rfl, rfl⟩ := projects
  obtain ⟨sequence, commandId, commandSha256, at_, actor, kind⟩ := t
  unfold applyKind at applied
  cases kind with
  | created =>
    have first := (seq_eq_ok.1 applied).1
    rw [rejectIf_bne] at first
    exact absurd first later
  | waitStarted wait =>
    obtain ⟨running, applied⟩ := seq_eq_ok.1 applied
    obtain ⟨valid, applied⟩ := seq_eq_ok.1 applied
    obtain ⟨fresh, applied⟩ := seq_eq_ok.1 applied
    cases applied
    rw [rejectIf_bne] at running
    obtain rfl := Option.some.inj running
    refine ⟨_, .wait valid ?_, rfl⟩
    simpa using fresh
  | signalDelivered waitId signalId name source idempotencyKey =>
    obtain ⟨identity, applied⟩ := seq_eq_ok.1 applied
    obtain ⟨named, applied⟩ := seq_eq_ok.1 applied
    obtain ⟨sourced, applied⟩ := seq_eq_ok.1 applied
    obtain ⟨keyed, applied⟩ := seq_eq_ok.1 applied
    obtain ⟨fresh, applied⟩ := seq_eq_ok.1 applied
    dsimp only at applied
    split at applied
    · rename_i id expectedName expectedSource expiresAtMs waiting
      obtain ⟨same, applied⟩ := seq_eq_ok.1 applied
      obtain ⟨early, applied⟩ := seq_eq_ok.1 applied
      cases applied
      obtain rfl := Option.some.inj waiting
      rw [rejectIf_eq_ok, Bool.or_eq_false_iff, Bool.or_eq_false_iff, bne_eq_false_iff_eq,
        bne_eq_false_iff_eq, bne_eq_false_iff_eq] at same
      obtain ⟨⟨rfl, rfl⟩, rfl⟩ := same
      refine ⟨_, .signal identity named sourced keyed ?_ (early_eq_ok.1 early), rfl⟩
      simpa using fresh
    · cases applied
  | waitDue waitId reason =>
    dsimp only at applied
    split at applied
    · rename_i wait waiting
      obtain ⟨same, applied⟩ := seq_eq_ok.1 applied
      obtain ⟨due, found, applied⟩ := bind_eq_ok.1 applied
      obtain ⟨matched, applied⟩ := seq_eq_ok.1 applied
      cases applied
      obtain rfl := Option.some.inj waiting
      rw [rejectIf_bne] at same matched
      subst same matched
      exact ⟨_, .due found, rfl⟩
    · cases applied
  | definitionMigrated old new =>
    obtain ⟨boundary, applied⟩ := seq_eq_ok.1 applied
    obtain ⟨valid, applied⟩ := seq_eq_ok.1 applied
    obtain ⟨monotonic, applied⟩ := seq_eq_ok.1 applied
    cases applied
    rw [rejectIf_eq_ok, Bool.or_eq_false_iff, bne_eq_false_iff_eq] at boundary
    obtain ⟨waiting, own⟩ := boundary
    obtain rfl := Option.some.inj own
    obtain ⟨named, newer, changed⟩ := migration_eq_ok.1 monotonic
    cases now with
    | waiting wait => exact ⟨_, .migrate valid named newer changed, rfl⟩
    | _ => cases waiting
  | completed summary =>
    obtain ⟨running, applied⟩ := seq_eq_ok.1 applied
    obtain ⟨text, applied⟩ := seq_eq_ok.1 applied
    cases applied
    rw [rejectIf_bne] at running
    obtain rfl := Option.some.inj running
    exact ⟨_, .complete text, rfl⟩
  | failed reason =>
    obtain ⟨live, applied⟩ := seq_eq_ok.1 applied
    obtain ⟨text, applied⟩ := seq_eq_ok.1 applied
    cases applied
    exact ⟨_, .fail (by simpa using live) text, rfl⟩
  | cancelled reason =>
    obtain ⟨live, applied⟩ := seq_eq_ok.1 applied
    obtain ⟨text, applied⟩ := seq_eq_ok.1 applied
    cases applied
    exact ⟨_, .cancel (by simpa using live) text, rfl⟩

/-- Every move is accepted by the replay. -/
theorem applyKind_of_moves {r : Replay V} {p p' : WorkflowProjection V} (projects : r.Projects p)
    (moves : Moves r.waitIds r.signalIds t.appliedAtMs p t.kind p') :
    r.applyKind t = .ok (r.moved t.kind p') := by
  obtain ⟨expected, commandIds, waitIds, signalIds, definition, status, graph, time⟩ := r
  obtain ⟨current, graphId, now⟩ := p
  obtain ⟨rfl, rfl, rfl⟩ := projects
  obtain ⟨sequence, commandId, commandSha256, at_, actor, kind⟩ := t
  dsimp only at moves
  cases moves with
  | wait valid fresh =>
    refine seq_eq_ok.2 ⟨by rw [rejectIf_eq_ok, bne_self_eq_false], seq_eq_ok.2 ⟨valid, ?_⟩⟩
    exact seq_eq_ok.2 ⟨by simpa using fresh, rfl⟩
  | signal identity named sourced keyed fresh early =>
    refine seq_eq_ok.2 ⟨identity, seq_eq_ok.2 ⟨named, seq_eq_ok.2 ⟨sourced, ?_⟩⟩⟩
    refine seq_eq_ok.2 ⟨keyed, seq_eq_ok.2 ⟨by simpa using fresh, ?_⟩⟩
    refine seq_eq_ok.2 ⟨?_, seq_eq_ok.2 ⟨early_eq_ok.2 early, rfl⟩⟩
    simp
  | due due =>
    refine seq_eq_ok.2 ⟨by rw [rejectIf_eq_ok, bne_self_eq_false], ?_⟩
    refine bind_eq_ok.2 ⟨_, due, seq_eq_ok.2 ⟨?_, rfl⟩⟩
    rw [rejectIf_eq_ok, bne_self_eq_false]
  | migrate valid named newer changed =>
    refine seq_eq_ok.2 ⟨?_, seq_eq_ok.2 ⟨valid, seq_eq_ok.2 ⟨?_, rfl⟩⟩⟩
    · simp [WorkflowStatus.isWaiting]
    · exact migration_eq_ok.2 ⟨named, newer, changed⟩
  | complete text =>
    exact seq_eq_ok.2 ⟨by rw [rejectIf_eq_ok, bne_self_eq_false], seq_eq_ok.2 ⟨text, rfl⟩⟩
  | fail live text | cancel live text =>
    exact seq_eq_ok.2 ⟨by simpa using live, seq_eq_ok.2 ⟨text, rfl⟩⟩

end Replay

/-! ## Histories -/

section Paths

variable [SemVer V] [Sha256]

/-- What a replay checks of every transition, whatever it does. -/
structure Recorded (past : List (WorkflowTransition V)) (t : WorkflowTransition V) : Prop where
  sequence : t.sequence = UInt64.ofNat (past.length + 1)
  counted : past.length + 2 < UInt64.size
  commandId : validateIdentity "Workflow command" t.commandId = .ok ()
  time : validateApplicationTime t.appliedAtMs = .ok ()
  ordered : lastTime past ≤ t.appliedAtMs
  actor : validateActorShape t.actor = .ok ()
  digest : transitionDigest t = .ok t.commandSha256
  room : t.kind.capacityClass = .work → past.length < maxWorkflowWorkTransitions
  fresh : t.commandId ∉ past.map (·.commandId)

/-- The first transition and what it projects to. -/
structure Creation (t : WorkflowTransition V) (p : WorkflowProjection V) : Prop where
  kind : t.kind = .created p.definition p.taskGraphId
  status : p.status = .running
  definition : validateDefinition p.definition = .ok ()
  taskGraph : validateIdentity "Workflow Task Graph" p.taskGraphId = .ok ()

/-- The transitions are a history that projects to a record of the Run. -/
abbrev Replays : List (WorkflowTransition V) → WorkflowProjection V → Prop :=
  Lib.Replays Recorded Creation fun past p t p' =>
    Moves (waitsOf past) (signalsOf past) t.appliedAtMs p t.kind p'

omit [SemVer V] in
theorem commandDigest_eq_ok {command : Json} {digest : String} :
    commandDigest command = .ok digest ↔
      command.encodedLen ≤ maxWorkflowCommandJsonBytes ∧
        digest = Sha256.digest (.json command) := by
  rw [commandDigest, seq_eq_ok, rejectIf_decide, Nat.not_lt, ok_eq_ok]

theorem Recorded.lower {past : List (WorkflowTransition V)} {t : WorkflowTransition V}
    (recorded : Recorded past t) : validateDigest "Workflow command" t.commandSha256 = .ok () := by
  obtain ⟨_, digested⟩ := commandDigest_eq_ok.1 recorded.digest
  rw [validateDigest, rejectIf_eq_ok, digested, Sha256.digest_lower]
  rfl

variable {ts : List (WorkflowTransition V)} {p : WorkflowProjection V}

theorem Replays.small (replays : Replays ts p) : ts.length + 1 < UInt64.size := by
  obtain ⟨past, t, rfl, recorded⟩ := Lib.Replays.last replays
  rw [List.length_append, List.length_singleton]
  exact recorded.counted

namespace Replay

/-- The loop state after a history. -/
def after (past : List (WorkflowTransition V)) (p : Option (WorkflowProjection V)) : Replay V :=
  ⟨UInt64.ofNat (past.length + 1), (past.map (·.commandId)).reverse, (waitsOf past).reverse,
    (signalsOf past).reverse, p.map (·.definition), p.map (·.status), p.map (·.taskGraphId),
    lastTime past⟩

/-- The loop state in the middle of the round for `t`. -/
def entering (past : List (WorkflowTransition V)) (p : Option (WorkflowProjection V))
    (t : WorkflowTransition V) : Replay V :=
  { after past p with
    expectedSequence := UInt64.ofNat (past.length + 2)
    commandIds := t.commandId :: (past.map (·.commandId)).reverse
    previousAppliedAtMs := t.appliedAtMs }

variable {t : WorkflowTransition V} {past : List (WorkflowTransition V)} {r : Replay V}

theorem step_after {p : Option (WorkflowProjection V)} (small : past.length + 1 < UInt64.size) :
    (after past p).step t = .ok r ↔ Recorded past t ∧ (entering past p t).applyKind t = .ok r := by
  have expected : (UInt64.ofNat (past.length + 1)).toNat = past.length + 1 := sequence_toNat small
  unfold step
  rw [entry_eq_ok]
  constructor
  · rintro ⟨sequence, commandId, _, time, ordered, actor, computed, reserved, fresh, next, counted,
      applied⟩
    obtain ⟨room, rfl⟩ := numberAfter_eq_ok.1 counted
    simp only [after, expected] at sequence room applied
    rw [sequence, expected, and_beq_eq_false, Nat.not_lt] at reserved
    exact ⟨⟨sequence, room, commandId, time, ordered, actor, computed, reserved,
      by simpa [after] using fresh⟩, applied⟩
  · rintro ⟨recorded, applied⟩
    refine ⟨recorded.sequence, recorded.commandId, recorded.lower, recorded.time,
      recorded.ordered, recorded.actor, recorded.digest, ?_, by simpa [after] using recorded.fresh,
      UInt64.ofNat (past.length + 2), ?_, applied⟩
    · rw [recorded.sequence, expected, and_beq_eq_false, Nat.not_lt]
      exact recorded.room
    · rw [after, expected]
      exact numberAfter_eq_ok.2 ⟨recorded.counted, rfl⟩

omit [Sha256] in
/-- A creation is accepted first, and nothing else is. -/
theorem applyKind_none (first : t.sequence = 1) :
    (entering [] none t).applyKind t = .ok r ↔ ∃ p, Creation t p ∧ r = after [t] (some p) := by
  obtain ⟨sequence, commandId, commandSha256, now, actor, kind⟩ := t
  obtain rfl : sequence = 1 := first
  constructor
  · intro applied
    unfold applyKind at applied
    cases kind with
    | created definition graphId =>
      replace applied := rest_ok applied
      obtain ⟨valid, applied⟩ := seq_eq_ok.1 applied
      obtain ⟨identity, applied⟩ := seq_eq_ok.1 applied
      cases applied
      exact ⟨⟨definition, graphId, .running⟩, ⟨rfl, rfl, valid, identity⟩, rfl⟩
    | signalDelivered waitId signalId name source idempotencyKey =>
      iterate 4 replace applied := rest_ok applied
      cases (seq_eq_ok.1 applied).2
    | waitDue => cases applied
    | _ => cases (seq_eq_ok.1 applied).1
  · rintro ⟨⟨definition, graphId, status⟩, ⟨rfl, rfl, valid, identity⟩, rfl⟩
    refine seq_eq_ok.2 ⟨rfl, seq_eq_ok.2 ⟨valid, seq_eq_ok.2 ⟨identity, rfl⟩⟩⟩

omit [SemVer V] [Sha256] in
theorem moved_entering {p p' : WorkflowProjection V} :
    (entering past (some p) t).moved t.kind p' = after (past ++ [t]) (some p') := by
  have length : (past ++ [t]).length + 1 = past.length + 2 := by simp
  rw [moved, entering, after, after, length, waitsOf_concat, signalsOf_concat, lastTime_concat,
    List.map_append, List.reverse_append, List.reverse_append, List.reverse_append]
  cases t.kind.wait? <;> cases t.kind.signal? <;> rfl

theorem step_start :
    start.step t = .ok r ↔
      ∃ p, Recorded [] t ∧ Creation t p ∧ r = after [t] (some p) := by
  show (after [] none).step t = .ok r ↔ _
  have small : ([] : List (WorkflowTransition V)).length + 1 < UInt64.size := by
    rw [List.length_nil]
    decide
  rw [step_after small]
  constructor
  · rintro ⟨recorded, applied⟩
    obtain ⟨p, creation, rfl⟩ := (applyKind_none recorded.sequence).1 applied
    exact ⟨p, recorded, creation, rfl⟩
  · rintro ⟨p, recorded, creation, rfl⟩
    exact ⟨recorded, (applyKind_none recorded.sequence).2 ⟨p, creation, rfl⟩⟩

theorem step_some {p : WorkflowProjection V} (later : past ≠ [])
    (small : past.length + 1 < UInt64.size) :
    (after past (some p)).step t = .ok r ↔
      ∃ p', Recorded past t ∧ Moves (waitsOf past) (signalsOf past) t.appliedAtMs p t.kind p' ∧
        r = after (past ++ [t]) (some p') := by
  have projects : (entering past (some p) t).Projects p := ⟨rfl, rfl, rfl⟩
  have same : ∀ p', Moves (waitsOf past).reverse (signalsOf past).reverse t.appliedAtMs p t.kind p'
      ↔ Moves (waitsOf past) (signalsOf past) t.appliedAtMs p t.kind p' := by
    intro p'
    constructor <;> exact Moves.congr (by simp) (by simp)
  rw [step_after small]
  constructor
  · rintro ⟨recorded, applied⟩
    have second : t.sequence ≠ 1 := by
      intro first
      have number := congrArg UInt64.toNat (recorded.sequence.symm.trans first)
      rw [sequence_toNat small] at number
      exact later (List.length_eq_zero_iff.1 (Nat.succ.inj number))
    obtain ⟨p', moves, rfl⟩ := applyKind_moves projects second applied
    exact ⟨p', recorded, (same p').1 moves, moved_entering⟩
  · rintro ⟨p', recorded, moves, rfl⟩
    have applied := applyKind_of_moves projects ((same p').2 moves)
    rw [moved_entering] at applied
    exact ⟨recorded, applied⟩

/-- **The replay path.**  A nonempty list of transitions is accepted exactly when
it is a history. -/
theorem run_eq_ok {ts : List (WorkflowTransition V)} :
    run ts = .ok r ↔
      (ts = [] ∧ r = start) ∨ ∃ p, Replays ts p ∧ r = after ts (some p) := by
  refine Lib.Replays.foldlM_eq_ok (fun past p => after past (some p)) step_start fun replays => ?_
  exact step_some replays.ne_nil (Replays.small replays)

end Replay

/-! ## What a history fixes -/

namespace Replays

variable {p : WorkflowProjection V} {ts : List (WorkflowTransition V)}

/-- A history begins with the creation of the Run. -/
theorem creation (replays : Replays ts p) : ∃ t rest first, ts = t :: rest ∧ Recorded [] t ∧
      Creation t first ∧ first.taskGraphId = p.taskGraphId := by
  exact Lib.Replays.creation (fun first p => first.taskGraphId = p.taskGraphId) (fun _ => rfl)
    (fun kept moves => by rw [kept, Moves.taskGraphId moves]) replays

theorem definition (replays : Replays ts p) : validateDefinition p.definition = .ok () := by
  induction replays with
  | created _ creation => exact creation.definition
  | @moved _ _ _ t _ _ moves ih =>
    generalize t.kind = kind at moves
    cases moves with
    | migrate valid => exact valid
    | _ => exact ih

end Replays

/-- **What `validate` accepts**: a history of at most 4098 transitions that
projects to the record. -/
theorem WorkflowRun.validate_eq_ok {run : WorkflowRun V} :
    run.validate = .ok () ↔ run.transitions.length ≤ maxWorkflowTransitions ∧
      Replays run.transitions run.projection := by
  constructor
  · intro valid
    replace valid := rest_ok (rest_ok valid)
    obtain ⟨count, valid⟩ := seq_eq_ok.1 valid
    obtain ⟨replayed, ran, matched⟩ := bind_eq_ok.1 valid
    rw [rejectIf_eq_ok, Bool.or_eq_false_iff, decide_eq_false_iff_not, not_lt] at count
    rw [rejectIf_eq_ok, Bool.or_eq_false_iff, Bool.or_eq_false_iff, bne_eq_false_iff_eq,
      bne_eq_false_iff_eq, bne_eq_false_iff_eq] at matched
    rcases Replay.run_eq_ok.1 ran with ⟨empty, _⟩ | ⟨⟨definition, graphId, status⟩, replays, rfl⟩
    · rw [empty] at count
      cases count.1
    · obtain ⟨⟨sameDefinition, sameGraph⟩, sameStatus⟩ := matched
      obtain rfl := Option.some.inj sameDefinition
      obtain rfl := Option.some.inj sameGraph
      obtain rfl := Option.some.inj sameStatus
      exact ⟨count.2, replays⟩
  · rintro ⟨count, replays⟩
    obtain ⟨_, _, first, _, _, creation, same⟩ := replays.creation
    have graph := creation.taskGraph
    rw [same] at graph
    refine seq_eq_ok.2 ⟨replays.definition, seq_eq_ok.2 ⟨graph, seq_eq_ok.2 ⟨?_, ?_⟩⟩⟩
    · rw [rejectIf_eq_ok, Bool.or_eq_false_iff, decide_eq_false_iff_not, not_lt]
      exact ⟨by simpa using replays.ne_nil, count⟩
    · refine bind_eq_ok.2 ⟨_, Replay.run_eq_ok.2 (.inr ⟨_, replays, rfl⟩), ?_⟩
      rw [rejectIf_eq_ok, Bool.or_eq_false_iff, Bool.or_eq_false_iff, bne_eq_false_iff_eq,
        bne_eq_false_iff_eq, bne_eq_false_iff_eq]
      exact ⟨⟨rfl, rfl⟩, rfl⟩

/-! ## What commands build -/

namespace WorkflowRun

/-- A command that is recognized changes nothing; another one leaves a Run that validates. -/
theorem apply_cases {run next : WorkflowRun V} {command : WorkflowCommand V}
    {appliedAtMs : UInt64} {authority : AuthorityContext} {outcome : WorkflowApplyOutcome}
    (accepted : run.apply command appliedAtMs authority = .ok (next, outcome)) :
    (run.recognizesCommand command = .ok true ∧ next = run) ∨
      (outcome = .applied ∧ next.validate = .ok ()) := by
  obtain ⟨recognized, looked, accepted⟩ := bind_eq_ok.1 accepted
  cases recognized with
  | true =>
    cases accepted
    exact .inl ⟨looked, rfl⟩
  | false =>
    replace accepted := rest_ok (rest_ok accepted)
    obtain ⟨_, _, accepted⟩ := bind_eq_ok.1 accepted
    replace accepted := rest_ok (rest_ok accepted)
    obtain ⟨_, _, accepted⟩ := bind_eq_ok.1 accepted
    obtain ⟨_, _, accepted⟩ := bind_eq_ok.1 accepted
    obtain ⟨valid, accepted⟩ := seq_eq_ok.1 accepted
    obtain ⟨_, _, accepted⟩ := bind_eq_ok.1 accepted
    cases accepted
    exact .inr ⟨rfl, valid⟩

/-- **Every Run that commands build validates.** -/
theorem Reachable.valid {run : WorkflowRun V} (reached : Reachable run) :
    run.validate = .ok () := by
  induction reached with
  | new created =>
    iterate 3 replace created := rest_ok created
    obtain ⟨_, _, created⟩ := bind_eq_ok.1 created
    obtain ⟨valid, created⟩ := seq_eq_ok.1 created
    obtain ⟨_, _, created⟩ := bind_eq_ok.1 created
    cases created
    exact valid
  | apply _ accepted ih =>
    rcases apply_cases accepted with ⟨_, rfl⟩ | ⟨_, valid⟩
    · exact ih
    · exact valid

theorem Reachable.replays {run : WorkflowRun V} (reached : Reachable run) :
    Replays run.transitions run.projection :=
  (validate_eq_ok.1 reached.valid).2

end WorkflowRun

end Paths

end YHarness.Workflow

/-
# YHarness.Workflow.Waits -- a wait is settled at most once

Signals, timers, migrations and terminal commands compete for the wait of a Run.
`settledWait` reads off which wait a transition settles after a history, and
`Exclusive` is what every history keeps: a settled wait is never open again, waits
and signals are named once, and definitions only get newer.
`wait_settlement_exclusive` reads this off every Run that commands can build.
-/
import YHarness.Workflow.History

namespace YHarness.Workflow

open YHarness.Lib YHarness.Kernel

set_option autoImplicit false

variable {V : Type}

/-! ## Observations -/

/-- The time from which a wait is due, or at which its signal comes too late. -/
def WorkflowWait.boundary : WorkflowWait → Option UInt64
  | signal _ _ _ expiresAtMs => expiresAtMs
  | timer _ dueAtMs | retry _ _ _ dueAtMs _ => some dueAtMs

def WorkflowStatus.wait? : WorkflowStatus → Option WorkflowWait
  | waiting wait => some wait
  | _ => none

/-- The open wait after one more transition. -/
def WorkflowTransitionKind.opens (kind : WorkflowTransitionKind V) (current : Option WorkflowWait) :
    Option WorkflowWait :=
  match kind with
  | waitStarted wait => some wait
  | definitionMigrated .. => current
  | _ => none

/-- The wait that is open after a history. -/
def openWait (past : List (WorkflowTransition V)) : Option WorkflowWait :=
  past.foldl (fun current t => t.kind.opens current) none

/-- The wait that a transition settles after a history: the wait it names, or the
open one for a transition that ends the Run. -/
def settledWait (past : List (WorkflowTransition V)) (t : WorkflowTransition V) :
    Option WorkflowWaitId :=
  match t.kind with
  | .signalDelivered waitId _ _ _ _ | .waitDue waitId _ => some waitId
  | .completed _ | .failed _ | .cancelled _ => (openWait past).map WorkflowWait.id
  | _ => none

/-- The definition a transition puts in force. -/
def WorkflowTransitionKind.definition? : WorkflowTransitionKind V → Option (WorkflowDefinition V)
  | created definition _ => some definition
  | definitionMigrated _ new => some new
  | _ => none

/-- The definitions of a history, in order. -/
def definitionsOf (past : List (WorkflowTransition V)) : List (WorkflowDefinition V) :=
  past.filterMap fun t => t.kind.definition?

theorem openWait_concat (past : List (WorkflowTransition V)) (t : WorkflowTransition V) :
    openWait (past ++ [t]) = t.kind.opens (openWait past) := by
  rw [openWait, List.foldl_append]
  rfl

theorem definitionsOf_concat (past : List (WorkflowTransition V)) (t : WorkflowTransition V) :
    definitionsOf (past ++ [t]) = definitionsOf past ++ t.kind.definition?.toList := by
  rw [definitionsOf, List.filterMap_append]
  cases placed : t.kind.definition? <;> simp [definitionsOf, placed]

theorem mem_waitsOf {past : List (WorkflowTransition V)} {waitId : WorkflowWaitId} :
    waitId ∈ waitsOf past ↔ ∃ t ∈ past, ∃ wait, t.kind.wait? = some wait ∧ wait.id = waitId := by
  simp only [waitsOf, List.mem_filterMap, Option.map_eq_some_iff]

variable {wait : WorkflowWait}

theorem waitStarted_of_wait? {kind : WorkflowTransitionKind V} (opened : kind.wait? = some wait) :
    kind = .waitStarted wait := by
  cases kind with
  | waitStarted other =>
    cases opened
    rfl
  | _ => cases opened

theorem waiting_of_wait? {status : WorkflowStatus} (waiting : status.wait? = some wait) :
    status = .waiting wait := by
  cases status with
  | waiting other =>
    cases waiting
    rfl
  | _ => cases waiting

/-- A due wait has reached its boundary. -/
theorem boundary_of_due {now : UInt64} {reason : WorkflowWakeReason}
    (due : dueReason wait now = .ok reason) : ∃ dueAtMs, wait.boundary = some dueAtMs ∧
      dueAtMs ≤ now := by
  cases wait with
  | signal id name source expiresAtMs =>
    cases expiresAtMs with
    | none => cases due
    | some expires =>
      by_cases reached : expires ≤ now
      · exact ⟨expires, rfl, reached⟩
      · rw [dueReason, if_neg reached] at due
        cases due
  | timer id dueAtMs | retry id activity attempt dueAtMs idempotencyKey =>
    by_cases reached : dueAtMs ≤ now
    · exact ⟨dueAtMs, rfl, reached⟩
    · rw [dueReason, if_neg reached] at due
      cases due

/-! ## The invariant of a history -/

section Invariant

variable [SemVer V]

/-- A newer definition of the same Workflow. -/
def Newer (older newer : WorkflowDefinition V) : Prop :=
  older.version < newer.version ∧ newer.name = older.name

/-- What every history with a projection keeps. -/
structure Exclusive (past : List (WorkflowTransition V)) (p : WorkflowProjection V) : Prop where
  waits : (waitsOf past).Nodup
  signals : (signalsOf past).Nodup
  openWait : openWait past = p.status.wait?
  started : ∀ wait, p.status = .waiting wait → ∃ t ∈ past, t.kind.wait? = some wait
  settled : ∀ before s after, past = before ++ s :: after →
    ∀ waitId, settledWait before s = some waitId →
      waitId ∈ waitsOf before ∧ p.status.wait?.map WorkflowWait.id ≠ some waitId
  once : ∀ before s between t after, past = before ++ s :: (between ++ t :: after) →
    ∀ waitId, settledWait before s = some waitId →
      settledWait (before ++ s :: between) t ≠ some waitId
  definitions : (definitionsOf past).Pairwise Newer
  current : (definitionsOf past).getLast? = some p.definition

variable {past : List (WorkflowTransition V)} {t : WorkflowTransition V}
  {p p' : WorkflowProjection V}

/-- A transition settles the wait that is open, and leaves none open. -/
theorem settledWait_open (openNow : openWait past = p.status.wait?)
    (moves : Moves (waitsOf past) (signalsOf past) t.appliedAtMs p t.kind p')
    {waitId : WorkflowWaitId} (settles : settledWait past t = some waitId) :
    p.status.wait?.map WorkflowWait.id = some waitId ∧ p'.status.wait? = none := by
  obtain ⟨sequence, commandId, commandSha256, now, actor, kind⟩ := t
  rw [settledWait, openNow] at settles
  cases moves with
  | wait | migrate => cases settles
  | complete => cases settles
  | signal | due => exact ⟨settles, rfl⟩
  | fail | cancel => exact ⟨settles, rfl⟩

theorem openWait_step (openNow : openWait past = p.status.wait?)
    (moves : Moves (waitsOf past) (signalsOf past) t.appliedAtMs p t.kind p') :
    openWait (past ++ [t]) = p'.status.wait? := by
  rw [openWait_concat, openNow]
  generalize t.kind = kind at moves
  cases moves <;> rfl

/-- The wait of a Run that a move leaves open was open before, or is new. -/
theorem waiting_cases {waits : List WorkflowWaitId} {signals : List WorkflowSignalId}
    {now : UInt64} {kind : WorkflowTransitionKind V} (moves : Moves waits signals now p kind p')
    {wait : WorkflowWait} (waiting : p'.status = .waiting wait) :
    p.status = .waiting wait ∨ (kind.wait? = some wait ∧ wait.id ∉ waits) := by
  cases moves with
  | wait valid fresh =>
    cases waiting
    exact .inr ⟨rfl, fresh⟩
  | migrate =>
    cases waiting
    exact .inl rfl
  | _ => cases waiting

omit [SemVer V] in
theorem mem_waitsOf_append {past rest : List (WorkflowTransition V)} {waitId : WorkflowWaitId}
    (member : waitId ∈ waitsOf past) : waitId ∈ waitsOf (past ++ rest) := by
  obtain ⟨s, here, opened⟩ := mem_waitsOf.1 member
  exact mem_waitsOf.2 ⟨s, List.mem_append_left _ here, opened⟩

/-- **One transition** keeps the invariant. -/
theorem Exclusive.step (exclusive : Exclusive past p)
    (moves : Moves (waitsOf past) (signalsOf past) t.appliedAtMs p t.kind p') :
    Exclusive (past ++ [t]) p' where
  waits := by
    rw [waitsOf_concat]
    have kept := exclusive.waits
    generalize t.kind = kind at moves
    cases moves with
    | wait _ fresh =>
      exact List.nodup_append'.2 ⟨kept, List.nodup_singleton _, List.disjoint_singleton.2 fresh⟩
    | _ => simpa [WorkflowTransitionKind.wait?] using kept
  signals := by
    rw [signalsOf_concat]
    have kept := exclusive.signals
    generalize t.kind = kind at moves
    cases moves with
    | signal _ _ _ _ fresh =>
      exact List.nodup_append'.2 ⟨kept, List.nodup_singleton _, List.disjoint_singleton.2 fresh⟩
    | _ => simpa [WorkflowTransitionKind.signal?] using kept
  openWait := openWait_step exclusive.openWait moves
  started wait waiting := by
    rcases waiting_cases moves waiting with before | ⟨opened, _⟩
    · obtain ⟨s, member, opened⟩ := exclusive.started wait before
      exact ⟨s, List.mem_append_left _ member, opened⟩
    · exact ⟨t, by simp, opened⟩
  settled before s after parts waitId settles := by
    rcases concat_eq_split parts with ⟨rfl, rfl, rfl⟩ | ⟨rest, rfl, earlier⟩
    · obtain ⟨own, none⟩ := settledWait_open exclusive.openWait moves settles
      obtain ⟨wait, waiting, named⟩ := Option.map_eq_some_iff.1 own
      refine ⟨?_, by rw [none]; exact nofun⟩
      obtain ⟨o, member, opened⟩ := exclusive.started wait (waiting_of_wait? waiting)
      exact mem_waitsOf.2 ⟨o, member, wait, opened, named⟩
    · obtain ⟨known, closed⟩ := exclusive.settled before s rest earlier waitId settles
      refine ⟨known, fun openAgain => ?_⟩
      obtain ⟨wait, waiting, named⟩ := Option.map_eq_some_iff.1 openAgain
      rcases waiting_cases moves (waiting_of_wait? waiting) with same | ⟨_, fresh⟩
      · apply closed
        rw [same, ← named]
        rfl
      · apply fresh
        rw [named, earlier]
        exact mem_waitsOf_append known
  once before s between u after parts waitId settles := by
    rw [← List.cons_append, ← List.append_assoc] at parts
    rcases concat_eq_split parts with ⟨rfl, rfl, earlier⟩ | ⟨rest, rfl, earlier⟩
    · intro again
      obtain ⟨_, closed⟩ := exclusive.settled before s between earlier.symm waitId settles
      rw [earlier] at again
      exact closed (settledWait_open exclusive.openWait moves again).1
    · rw [List.append_assoc, List.cons_append] at earlier
      exact exclusive.once before s between u rest earlier waitId settles
  definitions := by
    rw [definitionsOf_concat]
    have kept := exclusive.definitions
    have last := exclusive.current
    generalize t.kind = kind at moves
    cases moves with
    | @migrate old new _ _ _ named newer =>
      refine List.pairwise_append.2 ⟨kept, List.pairwise_singleton _ _, ?_⟩
      intro older member next single
      obtain rfl := List.mem_singleton.1 single
      obtain ⟨front, same⟩ := List.getLast?_eq_some_iff.1 last
      rw [same] at kept member
      have step : Newer old next := ⟨newer, named⟩
      rcases List.mem_append.1 member with earlier | final
      · obtain ⟨before, name⟩ := (List.pairwise_append.1 kept).2.2 older earlier old
          (List.mem_singleton_self _)
        exact ⟨lt_trans before step.1, step.2.trans name⟩
      · rw [List.mem_singleton.1 final]
        exact step
    | _ => simpa [WorkflowTransitionKind.definition?] using kept
  current := by
    rw [definitionsOf_concat]
    have last := exclusive.current
    generalize t.kind = kind at moves
    cases moves with
    | migrate => exact List.getLast?_concat
    | _ => simpa [WorkflowTransitionKind.definition?] using last

end Invariant

section Paths

variable [SemVer V] [Sha256]

omit [Sha256] in
theorem Creation.exclusive {t : WorkflowTransition V} {p : WorkflowProjection V}
    (creation : Creation t p) : Exclusive [t] p := by
  obtain ⟨sequence, commandId, commandSha256, now, actor, kind⟩ := t
  obtain ⟨definition, graphId, status⟩ := p
  obtain ⟨rfl, rfl, _, _⟩ := creation
  refine ⟨List.nodup_nil, List.nodup_nil, rfl, nofun, ?_, ?_, List.pairwise_singleton _ _, rfl⟩
  · intro before s after parts waitId settles
    have single : [] ++ [_] = before ++ s :: after := parts
    rcases concat_eq_split single with ⟨_, rfl, _⟩ | ⟨rest, _, earlier⟩
    · cases settles
    · simp at earlier
  · intro before s between u after parts
    have length := congrArg List.length parts
    simp at length
    omega

/-- **Every history** keeps the invariant. -/
theorem Replays.exclusive {ts : List (WorkflowTransition V)} {p : WorkflowProjection V}
    (replays : Replays ts p) : Exclusive ts p := by
  induction replays with
  | created _ creation => exact creation.exclusive
  | moved _ _ moves ih => exact ih.step moves

/-- A Run that moves on from a wait was waiting for it. -/
theorem Replays.opened {past : List (WorkflowTransition V)} {p : WorkflowProjection V}
    (replays : Replays past p) {wait : WorkflowWait} (waiting : p.status = .waiting wait) :
    ∃ o ∈ past, o.kind = .waitStarted wait := by
  obtain ⟨o, member, opened⟩ := replays.exclusive.started wait waiting
  exact ⟨o, member, waitStarted_of_wait? opened⟩

namespace WorkflowRun

/-- **Waits are settled exclusively.**  In every Run that commands build, no wait is
settled twice, and only after it was opened; a signal is delivered before the wait
for it expires, and a wait is due only from its boundary on; wait and signal
identities are used once; and every later definition is a newer version under the
same name, the last one being the Run's. -/
theorem wait_settlement_exclusive {run : WorkflowRun V} (reached : run.Reachable) :
    (∀ before s between t after, run.transitions = before ++ s :: (between ++ t :: after) →
      ∀ waitId, settledWait before s = some waitId →
        waitId ∈ waitsOf before ∧ settledWait (before ++ s :: between) t ≠ some waitId) ∧
    (∀ before t after, run.transitions = before ++ t :: after →
      ∀ waitId signalId name source idempotencyKey,
        t.kind = .signalDelivered waitId signalId name source idempotencyKey →
        ∃ o ∈ before, ∃ expiresAtMs, o.kind = .waitStarted (.signal waitId name source expiresAtMs) ∧
          ∀ expires, expiresAtMs = some expires → t.appliedAtMs < expires) ∧
    (∀ before t after, run.transitions = before ++ t :: after →
      ∀ waitId reason, t.kind = .waitDue waitId reason →
        ∃ o ∈ before, ∃ wait dueAtMs, o.kind = .waitStarted wait ∧ wait.id = waitId ∧
          wait.boundary = some dueAtMs ∧ dueAtMs ≤ t.appliedAtMs) ∧
    (waitsOf run.transitions).Nodup ∧ (signalsOf run.transitions).Nodup ∧
    (definitionsOf run.transitions).Pairwise Newer ∧
    (definitionsOf run.transitions).getLast? = some run.definition := by
  have replays := reached.replays
  have exclusive := replays.exclusive
  -- a transition that is not a creation moves a history
  have moved : ∀ before t after, run.transitions = before ++ t :: after →
      (∀ definition graphId, t.kind ≠ .created definition graphId) →
      ∃ q q', Replays before q ∧
        Moves (waitsOf before) (signalsOf before) t.appliedAtMs q t.kind q' := by
    intro before t after parts other
    by_cases first : before = []
    · subst first
      obtain ⟨head, rest, start, same, _, creation, _⟩ := replays.creation
      rw [same] at parts
      cases parts
      exact absurd creation.kind (other _ _)
    · obtain ⟨q, q', earlier, _, moves⟩ := replays.split parts first
      exact ⟨q, q', earlier, moves⟩
  refine ⟨?_, ?_, ?_, exclusive.waits, exclusive.signals, exclusive.definitions,
    exclusive.current⟩
  · intro before s between t after parts waitId settles
    exact ⟨(exclusive.settled before s _ parts waitId settles).1,
      exclusive.once before s between t after parts waitId settles⟩
  · intro before t after parts waitId signalId name source idempotencyKey kind
    obtain ⟨q, q', earlier, moves⟩ := moved before t after parts (by rw [kind]; nofun)
    rw [kind] at moves
    obtain ⟨definition, graphId, status⟩ := q
    cases moves with
    | @signal _ _ _ _ _ _ _ expiresAtMs _ _ _ _ _ early =>
      obtain ⟨o, member, opened⟩ := earlier.opened rfl
      exact ⟨o, member, expiresAtMs, opened, early⟩
  · intro before t after parts waitId reason kind
    obtain ⟨q, q', earlier, moves⟩ := moved before t after parts (by rw [kind]; nofun)
    rw [kind] at moves
    obtain ⟨definition, graphId, status⟩ := q
    cases moves with
    | @due _ _ wait _ due =>
      obtain ⟨o, member, opened⟩ := earlier.opened rfl
      obtain ⟨dueAtMs, boundary, passed⟩ := boundary_of_due due
      exact ⟨o, member, wait, dueAtMs, opened, rfl, boundary, passed⟩

end WorkflowRun

end Paths

namespace WorkflowRun

section Sample

attribute [local instance] constantSha256

theorem wait_settlement_exclusive_sample :
    sampleWaiting.transitions.length = 7 ∧
      (waitsOf sampleWaiting.transitions).length = 3 ∧
      (waitsOf sampleWaiting.transitions).Nodup ∧
      (definitionsOf sampleWaiting.transitions).Pairwise Newer ∧
      (definitionsOf sampleWaiting.transitions).getLast? = some sampleWaiting.definition := by
  obtain ⟨_, _, _, waits, _, newer, last⟩ := wait_settlement_exclusive sampleWaiting_reachable
  exact ⟨by decide +kernel, by decide +kernel, waits, newer, last⟩

end Sample

end WorkflowRun

end YHarness.Workflow

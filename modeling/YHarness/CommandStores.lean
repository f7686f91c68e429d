/-
# YHarness.CommandStores -- the stores that apply commands once

The Workflow and the Human Handoff coordinators, each in memory and on SQLite, are
ledgers of aggregates: every command is part of its history once, whatever calls run
in between and however often it is sent.  The two Workflow coordinators answer every
run of calls alike.  The two Handoff coordinators do so unless a run creates a Handoff
at a time that the integer column of SQLite has no room for.
-/
import YHarness.Handoff.Stores
import YHarness.Workflow.Stores

namespace YHarness

open YHarness.Lib YHarness.Kernel YHarness.Handoff YHarness.Workflow

set_option autoImplicit false

section Ledgers

variable [Sha256]

/-- What the Workflow ledger keeps. -/
def WorkflowsOnce (V : Type) [SemVer V] : Prop :=
  (workflowAggregates (V := V)).ExactlyOnce
    (fun snapshot command _ => snapshot.run.Wrote command)
    (fun snapshot request _ => snapshot.run.BeganWith request)
    (fun _ _ => True)
    (fun snapshot request _ => snapshot.run.TellsApart request) Aggregates.anyTime

/-- What the Handoff ledger keeps: a retry is one of the same actor. -/
def HandoffsOnce (room : UInt64 → Except HarnessError Unit) : Prop :=
  handoffAggregates.ExactlyOnce
    (fun snapshot command authority => snapshot.handoff.Wrote command authority.actor)
    (fun snapshot request authority => snapshot.handoff.BeganWith request authority.actor)
    (fun caller other => caller.actor = other.actor)
    (fun snapshot request authority => snapshot.handoff.TellsApart request authority.actor) room

/-- **Commands are applied exactly once**, in each of the four stores, and the stores of
one kind answer alike as far as SQLite has room for the times of new Handoffs. -/
theorem commands_applied_once (V : Type) [SemVer V] :
    (WorkflowsOnce V ∧
      (workflowAggregates (V := V)).Implements Aggregates.anyTime MemoryWorkflowCoordinator.call
        .empty MemoryWorkflowCoordinator.Shows ∧
      (workflowAggregates (V := V)).Implements Aggregates.anyTime SqliteWorkflowCoordinator.call
        .empty SqliteWorkflowCoordinator.Shows) ∧
    (HandoffsOnce Aggregates.anyTime ∧
      handoffAggregates.Implements Aggregates.anyTime MemoryHumanHandoffCoordinator.call .empty
        MemoryHumanHandoffCoordinator.Shows ∧
      HandoffsOnce sqlRoom ∧
      handoffAggregates.Implements sqlRoom SqliteHumanHandoffCoordinator.call .empty
        SqliteHumanHandoffCoordinator.Shows) ∧
    (∀ calls : List (WorkflowCall V),
      (attempts MemoryWorkflowCoordinator.call .empty calls).1 =
        (attempts SqliteWorkflowCoordinator.call .empty calls).1) ∧
    ∀ calls : List HandoffCall,
      (attempts MemoryHumanHandoffCoordinator.call .empty calls).1 =
          (attempts SqliteHumanHandoffCoordinator.call .empty calls).1 ↔
        ∀ before c later, calls = before ++ c :: later →
          (MemoryHumanHandoffCoordinator.after before).HasRoom c := by
  refine ⟨⟨workflowLaws.exactly_once _, Workflow.memory_implements, Workflow.sqlite_implements⟩,
    ⟨handoffLaws.exactly_once _, Handoff.memory_implements, handoffLaws.exactly_once _,
      Handoff.sqlite_implements⟩, ?_, same_answers_iff⟩
  intro calls
  rw [Workflow.memory_implements.answers, Workflow.sqlite_implements.answers]

end Ledgers

/-! ## A late Handoff -/

section Sample

attribute [local instance] constantSha256

/-- A Handoff requested at the first time that a signed integer cannot hold. -/
def lateHandoff : HandoffCall :=
  .create "handoff" HumanHandoff.sampleRequest 9223372036854775808
    (HumanHandoff.sampleAuthority "requester")

/-- The in-memory coordinator creates it; SQLite refuses it. -/
theorem late_handoff_divides :
    (attempts MemoryHumanHandoffCoordinator.call .empty [lateHandoff]).1.map
        (fun answer => answer.toOption.isSome) = [true] ∧
      (attempts SqliteHumanHandoffCoordinator.call .empty [lateHandoff]).1 =
        [.error (.humanHandoff "Handoff time exceeds SQLite")] := by
  decide +kernel

end Sample

end YHarness

/-
# YHarness.State.Execution -- reading a Turn's wait back from its Items

`agent_loop_execution_projection` of `src/state/mod.rs` as a fold over the Items
of a Turn.  The source indexes into the Turn; here the cursor carries the Items
already passed, so the Item before a transition is their last and the slice
after a claim is what was passed since.
-/
import YHarness.State.Wait

namespace YHarness.State

open YHarness.Lib YHarness.Kernel

set_option autoImplicit false

/-- The state of the scan: the Items passed, the current execution, the index
of its claim and whether a closure or denial ended the Turn. -/
structure ExecutionCursor where
  seen : List Item
  execution : Option AgentLoopExecution
  claimIndex : Option Nat
  closed : Bool

def ExecutionCursor.start : ExecutionCursor := ⟨[], none, none, false⟩

def isToolResultOf (callId : String) (item : Item) : Bool :=
  match item.kind with
  | .toolResult id _ _ _ => id == callId
  | _ => false

/-- `require_new_wait_boundary_at` over the Items before the boundary. -/
def requireNewWaitBoundaryAt (turnId : TurnId) (items : List Item)
    (execution : AgentLoopExecution) (claimIndex : Option Nat) : Except HarnessError Unit :=
  match execution with
  | .executing envelope _ _ =>
    rejectIf (!claimIndex.any fun index =>
        (items.drop (index + 1)).any
          (isToolResultOf envelope.waitKind.request.authorization.callId))
      (.state ("claimed Agent Loop execution has no authoritative ToolResult; unknown " ++
        "effect cannot be replayed"))
  | _ => .error (.state s!"turn {turnId} already has an open Waiting or Ready execution")

/-- Whether the Item before the current one satisfies `matches`. -/
def precededBy (seen : List Item) (matching : Item → Bool) : Bool :=
  seen.getLast?.any matching

/-- What a closure or denial finds: the envelope, the revision it consumes and
the time of the transition before it. -/
def openPhase (noLive executing : String)
    (ready : ResumeEvidence → Except HarnessError Unit) :
    Option AgentLoopExecution → Except HarnessError (TurnWaitEnvelope × UInt64 × UInt64)
  | none => .error (.state noLive)
  | some (.waiting envelope) => .ok (envelope, envelope.revision, envelope.serverStartedAtMs)
  | some (.ready envelope resume) => do
    ready resume
    .ok (envelope, resume.revision, resume.acceptedAtMs)
  | some (.executing _ _ _) => .error (.state executing)

/-- One Item of the scan. -/
def projectItem [Sha256] (turnId : TurnId) (s : ExecutionCursor) (item : Item) :
    Except HarnessError ExecutionCursor := do
  rejectIf s.closed
    (.state "Turn history contains an Item after its Agent Loop wait terminal transition")
  match item.kind with
  | .agentLoopWaitStarted envelope => do
    validateWaitEnvelope envelope
    rejectIf (envelope.turnId != turnId)
      (.state "Agent Loop wait envelope Turn differs from its projection")
    rejectIf (!precededBy s.seen (approvalRequestedMatchesEnvelope · envelope))
      (.state "Agent Loop wait transition lacks its adjacent ApprovalRequested evidence")
    checkSome (requireNewWaitBoundaryAt turnId s.seen · s.claimIndex) s.execution
    .ok { seen := s.seen ++ [item], execution := some (.waiting envelope),
          claimIndex := none, closed := false }
  | .agentLoopResumeAccepted evidence =>
    match s.execution with
    | some (.waiting envelope) => do
      validateResumeEvidence envelope evidence
      rejectIf (!precededBy s.seen (approvalDecisionMatchesResume · evidence))
        (.state ("Agent Loop resume transition lacks its adjacent ApprovalDecision " ++
          "evidence"))
      .ok { s with seen := s.seen ++ [item], execution := some (.ready envelope evidence) }
    | _ => .error (.state "Agent Loop resume transition does not follow Waiting")
  | .agentLoopReadyClaimed evidence =>
    match s.execution with
    | some (.ready envelope resume) => do
      rejectIf resume.settlement.decision.isDeny
        (.state ("an Agent Loop Ready state with an accepted Deny settlement cannot be " ++
          "claimed"))
      validateClaimEvidence envelope resume evidence
      .ok { s with seen := s.seen ++ [item],
                   execution := some (.executing envelope resume evidence),
                   claimIndex := some s.seen.length }
    | _ => .error (.state "Agent Loop claim transition does not follow Ready")
  | .agentLoopWaitClosed evidence => do
    let (envelope, revision, transitionMs) ← openPhase
      "Agent Loop closure transition has no live Waiting or Ready execution"
      "Agent Loop closure cannot settle an Executing claim"
      (fun resume => rejectIf resume.settlement.decision.isDeny
        (.state ("an Agent Loop Ready state with an accepted Deny settlement cannot be " ++
          "closed"))) s.execution
    rejectIf (item.createdAtMs != evidence.closedAtMs ||
        evidence.previousRevision != revision || decide (evidence.closedAtMs < transitionMs))
      (.state "Agent Loop closure does not consume the current wait revision and time")
    validateWaitClosureEvidence envelope evidence
    rejectIf (!precededBy s.seen (turnStoppedMatchesClosure · evidence))
      (.state "Agent Loop closure transition lacks its adjacent TurnStopped evidence")
    .ok { seen := s.seen ++ [item], execution := none, claimIndex := none, closed := true }
  | .agentLoopWaitDenied evidence => do
    let (envelope, revision, transitionMs) ← openPhase
      "Agent Loop denial transition has no live Waiting or Ready execution"
      "Agent Loop denial cannot settle an Executing claim"
      (fun resume => rejectIf (resume.settlement != evidence.settlement)
        (.state "Agent Loop denial differs from the accepted Ready settlement")) s.execution
    rejectIf (item.createdAtMs != evidence.deniedAtMs ||
        evidence.previousRevision != revision || decide (evidence.deniedAtMs < transitionMs))
      (.state "Agent Loop denial does not consume the current wait revision and time")
    validateWaitDenialEvidence envelope evidence
    rejectIf (!precededBy s.seen (approvalDecisionMatchesDenial · evidence))
      (.state "Agent Loop denial transition lacks its adjacent ApprovalDecision evidence")
    .ok { seen := s.seen ++ [item], execution := none, claimIndex := none, closed := true }
  | _ => .ok { s with seen := s.seen ++ [item] }

/-- The scan of a Turn's Items from its start. -/
def scanItems [Sha256] (turnId : TurnId) (items : List Item) :
    Except HarnessError ExecutionCursor :=
  items.foldlM (projectItem turnId) .start

/-- `agent_loop_execution_projection`. -/
def agentLoopExecutionProjection [Sha256] (turn : Turn) :
    Except HarnessError (Option AgentLoopExecution) := do
  let cursor ← scanItems turn.id turn.items
  .ok cursor.execution

/-- The last position whose Item satisfies `p` (`rposition`). -/
def lastPosition (p : Item → Bool) (items : List Item) : Option Nat :=
  (items.reverse.findIdx? p).map fun fromEnd => items.length - 1 - fromEnd

/-- `require_new_wait_boundary`. -/
def requireNewWaitBoundary (turn : Turn) (execution : AgentLoopExecution) :
    Except HarnessError Unit :=
  let isClaim (item : Item) : Bool :=
    match item.kind, execution with
    | .agentLoopReadyClaimed evidence, .executing _ _ claim => evidence.claimId == claim.claimId
    | _, _ => false
  requireNewWaitBoundaryAt turn.id turn.items execution (lastPosition isClaim turn.items)

end YHarness.State

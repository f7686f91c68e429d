/-
# YHarness.Runtime.Tools -- authorizing and executing Tool calls

The Tool half of `src/runtime/mod.rs`: policy and approval of a call, in process
or up to a durable wait, the execution of single calls and batches, and the
delivery of approvals to the Inbox with its tombstones.
-/
import YHarness.Runtime.Control

namespace YHarness.Runtime

open YHarness.Lib YHarness.Kernel YHarness.State

set_option autoImplicit false

/-- What one execution is about. -/
structure Execution where
  runtime : HarnessRuntime
  thread : StoredThread
  options : TurnExecutionOptions

variable [Sha256] (x : Execution)

/-! ## Executing -/

/-- Settle the Turn when the call is not in the capability view. -/
def requireDisclosed (turn : Turn) (name : String) : RuntimeM Unit :=
  orSettle x.thread turn (check (x.runtime.toolView.require name))

def invocationOf (registered : RegisteredTool) (call : ModelToolCall) : ToolInvocation :=
  ⟨call, registered.origin, x.options.authority⟩

/-- `record_tool_settlement`. -/
def recordToolSettlement (turn : Turn) (settlement : ToolCallSettlement) : RuntimeM Turn :=
  record x.thread turn (.toolResult settlement.callId settlement.output settlement.isError
    settlement.connectorEvidence)

/-- `execute_tool_call`. -/
def executeToolCall (turn : Turn) (call : ModelToolCall) (deadline : Option Nat) :
    RuntimeM Turn := do
  requireDisclosed x turn call.name
  let registered ← check (orError (.unknownTool call.name) (x.runtime.tools.get call.name))
  let invocation := invocationOf x registered call
  let reply ← ask (.invoke .loop (.executeTool invocation) deadline)
  match settleTool invocation reply with
  | .ok settlement => recordToolSettlement x turn settlement
  | .error error => failWith x.thread turn error

/-- The invocations of a parallel group. -/
def parallelInvocations (turn : Turn) : List ModelToolCall → RuntimeM (List ToolInvocation)
  | [] => check (.ok [])
  | call :: calls => do
    requireDisclosed x turn call.name
    let registered ← orSettle x.thread turn
      (check (orError (.unknownTool call.name) (x.runtime.tools.get call.name)))
    let invocations ← parallelInvocations turn calls
    check (.ok (invocationOf x registered call :: invocations))

/-- Record the results of a group in call order; its first failure is kept. -/
def recordSettlements (turn : Turn) (stop : Option HarnessError) :
    List ToolInvocation → List (Except HarnessError ToolEvidence) →
      RuntimeM (Turn × Option HarnessError)
  | [], _ => check (.ok (turn, stop))
  | _ :: _, [] => failWith x.thread turn (.state "parallel Tool result is missing")
  | invocation :: invocations, reply :: replies =>
    match settleTool invocation reply with
    | .ok settlement => do
      let turn ← recordToolSettlement x turn settlement
      recordSettlements turn stop invocations replies
    | .error error => recordSettlements turn (stop.or (some error)) invocations replies

/-- `execute_parallel_tool_calls`. -/
def executeParallelToolCalls (turn : Turn) (calls : List ModelToolCall) (deadline : Option Nat) :
    RuntimeM Turn := do
  let invocations ← parallelInvocations x turn calls
  let replies ← ask (.invoke .loop (.executeTools invocations) deadline)
  match replies with
  | none => failWith x.thread turn (.capabilityPanicked .tool)
  | some replies => do
    let (turn, stop) ← recordSettlements x turn none invocations replies
    match stop with
    | none => check (.ok turn)
    | some error => failWith x.thread turn error

def runsInParallel (runtime : HarnessRuntime) (call : ModelToolCall) : Bool :=
  runtime.maxParallelToolCalls != 1 && (runtime.tools.get call.name).any fun registered =>
    registered.batchExecution == .parallelSafe

/-- The groups a batch is executed in: the longest runs of parallel calls, and
every other call alone. -/
def toolGroups (runtime : HarnessRuntime) : List ModelToolCall → List (List ModelToolCall)
  | [] => []
  | call :: calls =>
    match toolGroups runtime calls with
    | [] => [[call]]
    | group :: groups =>
      if runsInParallel runtime call && group.all (runsInParallel runtime) then
        (call :: group) :: groups
      else [call] :: group :: groups

/-- One group: superseded with all later calls when steering waits. -/
def executeToolGroups (deadline : Option Nat) (turn : Turn) :
    List (List ModelToolCall) → RuntimeM (Turn × Bool)
  | [] => check (.ok (turn, false))
  | group :: groups => do
    let head ← check (orError (.state "a Tool group has a call") group.head?)
    let _ ← check (orError (.unknownTool head.name) (x.runtime.tools.get head.name))
    let (turn, superseded) ← supersedeToolCallsBeforeEffect x.thread turn
      ((group ++ groups.flatten).map (·.callId))
    if superseded then check (.ok (turn, true))
    else do
      let turn ← match group with
        | [call] => executeToolCall x turn call deadline
        | calls => executeParallelToolCalls x turn calls deadline
      executeToolGroups deadline turn groups

def requireAllDisclosed (turn : Turn) : List ModelToolCall → RuntimeM Unit
  | [] => check (.ok ())
  | call :: calls => do
    requireDisclosed x turn call.name
    requireAllDisclosed turn calls

/-- `execute_tool_batch`: whether it was superseded. -/
def executeToolBatch (turn : Turn) (calls : List ModelToolCall) (deadline : Option Nat) :
    RuntimeM (Turn × Bool) := do
  requireAllDisclosed x turn calls
  executeToolGroups x deadline turn (toolGroups x.runtime calls)

/-! ## The Inbox -/

/-- `reject_if_tombstoned`. -/
def rejectIfTombstoned (key : String) : RuntimeM Unit := do
  let tombstone ← ask (.lookupTombstone key)
  match tombstone with
  | none => check (.ok ())
  | some tombstone => check (.error
      (.staleWaitSettlement key tombstone.reason tombstone.tombstonedAtMs))

/-- `record_tombstone`. -/
def recordTombstone (key : String) (reason : InboxTombstoneReason) : RuntimeM Unit := do
  let nowMs ← ask .now
  ask (.recordTombstone key reason nowMs)

/-- `submit_durable_approval`. -/
def submitDurableApproval (request : ApprovalRequest) (authority : AuthorityContext) :
    RuntimeM ApprovalRecord := do
  rejectIfTombstoned request.id
  let record ← ask (.invoke .preparation (.submitWait request authority) none)
  let record ← check record
  ask (.enqueueRepairOp request.id)
  check (.ok record)

/-- `read_durable_approval`. -/
def readDurableApproval (request : ApprovalRequest) (authority : AuthorityContext) :
    RuntimeM (Option ApprovalRecord) := do
  let record ← ask (.invoke .preparation (.getWait request.id authority) none)
  check record

/-- `abandon_durable_approval`. -/
def abandonDurableApproval (turnId : TurnId) (reason : String) (authority : AuthorityContext) :
    RuntimeM Unit := do
  let key := s!"{x.thread.id}::{turnId}"
  let tombstone ← ask (.lookupTombstone key)
  if tombstone.isSome then check (.ok ())
  else do
    let abandoned ← ask (.invoke .preparation (.abandonTurn reason authority) none)
    check abandoned
    recordTombstone key .cancelled
    ask (.enqueueRepairOp key)

/-! ## Authorizing -/

def authorizationOf (turn : Turn) (registered : RegisteredTool) (call : ModelToolCall) :
    ToolAuthorization :=
  ⟨turn.threadId, turn.id, call.callId, registered.descriptor, registered.origin, call.input⟩

/-- The policy's decision about a call. -/
def decidePolicy (turn : Turn) (call : ModelToolCall) (deadline : Option Nat) :
    RuntimeM (ToolAuthorization × PolicyDecision) := do
  requireDisclosed x turn call.name
  let registered ← orSettle x.thread turn
    (check (orError (.unknownTool call.name) (x.runtime.tools.get call.name)))
  let authorization := authorizationOf turn registered call
  let decision ← ask (.invoke .loop (.authorize authorization x.options.authority) deadline)
  let decision ← orSettle x.thread turn (check decision)
  orSettle x.thread turn (check (validatePolicyDecision decision))
  check (.ok (authorization, decision))

def policyDecisionKind (authorization : ToolAuthorization) (decision : PolicyDecision) :
    ItemKind :=
  .policyDecision authorization.callId (some authorization.origin) decision

/-- The approval of a recorded request, by the handler. -/
def decideApproval (turn : Turn) (request : ApprovalRequest) (deadline : Option Nat) :
    RuntimeM ApprovalDecision := do
  let approval ← ask (.invoke .loop (.decideApproval request x.options.authority) deadline)
  match approval with
  | .ok approval => do
    orSettle x.thread turn (check (validateApprovalDecision approval))
    check (.ok approval)
  | .error error => do
    let abandonment ← ask (.invoke .loop
      (.abandonTurn "approval wait ended without a settlement" x.options.authority) none)
    settleError x.thread turn error
    check abandonment
    check (.error error)

/-- Ask the handler in process and record what it decided. -/
def askApproval (turn : Turn) (call : ModelToolCall) (authorization : ToolAuthorization)
    (modelRequestSha256 reason : String) (risk : RiskLevel) (deadline : Option Nat) :
    RuntimeM Turn := do
  let stamp ← ask .stamp
  let request : ApprovalRequest :=
    ⟨stamp.id, x.options.authority.actor, authorization, reason, risk⟩
  let turn ← record x.thread turn (.approvalRequested request.id call.callId call.name reason risk
    (some request.requestedBy) (some authorization.origin) (some modelRequestSha256))
  rejectIfTombstoned request.id
  let approval ← decideApproval x turn request deadline
  recordTombstone request.id .settled
  ask (.enqueueRepairOp request.id)
  let turn ← record x.thread turn (.approvalDecision request.id call.callId approval)
  match approval with
  | .approve => check (.ok turn)
  | .deny reason => failWith x.thread turn (.approvalDenied call.name reason)

/-- `authorize_tool_call`. -/
def authorizeToolCall (turn : Turn) (call : ModelToolCall) (modelRequestSha256 : String)
    (deadline : Option Nat) : RuntimeM Turn := do
  let (authorization, decision) ← decidePolicy x turn call deadline
  let turn ← record x.thread turn (policyDecisionKind authorization decision)
  match decision with
  | .allow => check (.ok turn)
  | .deny reason => failWith x.thread turn (.policyDenied call.name reason)
  | .ask reason risk =>
    askApproval x turn call authorization modelRequestSha256 reason risk deadline

/-! ## Durable waits -/

inductive DurableAuthorization where
  | authorized (turn : Turn)
  | restart (turn : Turn)
  | waiting (wait : ApprovalWait)

/-- How the section that opens a wait ends. -/
inductive WaitSection where
  | restart (turn : Turn)
  | settle (error : HarnessError)
  | started (turn : Turn) (envelope : TurnWaitEnvelope) (request : ApprovalRequest)
      (authority : AuthorityContext)

/-- `wait_started_event`: the envelope of a stored start. -/
def startedEnvelope (transition : Item) : Except HarnessError TurnWaitEnvelope :=
  match transition.kind with
  | .agentLoopWaitStarted envelope => .ok envelope
  | _ => .error (.state "wait transition has no durable envelope")

/-- What is left of a failed start: the wait it opened after all, or an error. -/
def recoverStart (turn : Turn) (command : AgentLoopWaitStartCommand)
    (authority : AuthorityContext) (startError : HarnessError) : RuntimeM WaitSection := do
  let execution ← TryTask.attempt (agentLoopExecutionAs x.thread turn.id authority)
  match execution with
  | .ok (some execution) =>
    if waitEnvelopeMatchesStart execution.envelope command.waitId command.request
        command.completionGeneration command.waitTtlMs command.remainingActiveTimeoutMs
        authority then do
      let loaded ← loadThreadAs x.thread authority
      let recovered ← check (orError
        (.state "committed durable wait disappeared during recovery")
        (loaded.bind (findTurn · turn.id)))
      check (.ok (.started recovered execution.envelope command.request authority))
    else check (.error (.state
      (s!"Approval wait start failed ({startError.display}); another durable wait is " ++
        "current")))
  | .ok none => check (.ok (.settle startError))
  | .error reloadError => check (.error (.state
      (s!"Approval wait start failed ({startError.display}); ambiguous wait reload also " ++
        s!"failed ({reloadError.display})")))

/-- The start of a wait at the sealed boundary. -/
def startWait (turn : Turn) (command : AgentLoopWaitStartCommand)
    (authority : AuthorityContext) : RuntimeM WaitSection := do
  let stored ← TryTask.attempt (startApprovalWaitAs x.thread turn command authority)
  match stored with
  | .ok (requested, transition) => do
    let envelope ← check (startedEnvelope transition)
    check (.ok (.started { turn with items := turn.items ++ [requested, transition] } envelope
      command.request authority))
  | .error startError => recoverStart x turn command authority startError

/-- The remaining active time of a Turn with this deadline. -/
def readRemaining (deadline : Option Nat) : RuntimeM (Except HarnessError (Option UInt64)) :=
  match deadline with
  | none => check (.ok (remainingActiveTimeoutMs none .approval 0))
  | some deadline => do
    let instant ← ask (.instant (some deadline))
    check (.ok (remainingActiveTimeoutMs (some deadline) .approval instant))

/-- The request of an asked call is frozen and its wait opened. -/
def openWaitLocked (turn : Turn) (authorization : ToolAuthorization)
    (modelRequestSha256 reason : String) (risk : RiskLevel) (deadline : Option Nat)
    (waitTtlMs : Nat) : LockedM WaitSection := do
  let turn ← LockedM.sealOnError
    (recordLocked x.thread turn (policyDecisionKind authorization (.ask reason risk)))
  let stamp ← LockedM.lift (ask .stamp)
  let request : ApprovalRequest :=
    ⟨stamp.id, x.options.authority.actor, authorization, reason, risk⟩
  match x.runtime.completionGenerationForModelRequest turn modelRequestSha256 with
  | .error error => do
    LockedM.close
    LockedM.check (.ok (.settle error))
  | .ok completionGeneration => do
    let cancelled ← LockedM.lift (ask (.isCancelled .waitStart))
    if cancelled then do
      LockedM.close
      LockedM.check (.ok (.settle (.cancelled .approval)))
    else do
      let remaining ← LockedM.lift (readRemaining deadline)
      match remaining with
      | .error error => do
        LockedM.close
        LockedM.check (.ok (.settle error))
      | .ok remainingActiveTimeoutMs => do
        LockedM.close
        let control ← LockedM.control
        let waitStamp ← LockedM.lift (ask .stamp)
        LockedM.lift (startWait x turn
          { waitId := waitStamp.id, request, completionGeneration, waitTtlMs,
            remainingActiveTimeoutMs } control.authority)

/-- The section of an asked call: steering that waits supersedes it. -/
def askLocked (turn : Turn) (call : ModelToolCall) (authorization : ToolAuthorization)
    (modelRequestSha256 reason : String) (risk : RiskLevel) (deadline : Option Nat)
    (waitTtlMs : Nat) : LockedM WaitSection := do
  let control ← LockedM.control
  if control.pendingSteering.isEmpty then
    openWaitLocked x turn authorization modelRequestSha256 reason risk deadline waitTtlMs
  else LockedM.sealOnError do
    let turn ← recordLocked x.thread turn (supersededToolResult call.callId)
    let turn ← applyPendingSteeringLocked x.thread turn
    LockedM.check (.ok (.restart turn))

/-- The wait an execution returns, with what the Inbox said about it. -/
def deliverWait (turn : Turn) (envelope : TurnWaitEnvelope) (request : ApprovalRequest)
    (authority : AuthorityContext) : RuntimeM ApprovalWait := do
  let record ← TryTask.attempt (submitDurableApproval request authority)
  let status := match record with
    | .error error => deliveryRetry .submit error
    | .ok record =>
      match approvalWaitStatus record request authority with
      | .ok status => status
      | .error error => deliveryRetry .submit error
  check (.ok ⟨turn, envelope, status⟩)

/-- The wait section of an asked call and what follows it. -/
def askUntilWait (turn : Turn) (call : ModelToolCall) (authorization : ToolAuthorization)
    (modelRequestSha256 reason : String) (risk : RiskLevel) (deadline : Option Nat)
    (waitTtlMs : Nat) : RuntimeM DurableAuthorization := do
  let ended ← withControl .startWait turn
    (askLocked x turn call authorization modelRequestSha256 reason risk deadline waitTtlMs)
  match ended with
  | .restart turn => check (.ok (.restart turn))
  | .settle error => failWith x.thread turn error
  | .started turn envelope request authority => do
    let wait ← deliverWait turn envelope request authority
    check (.ok (.waiting wait))

/-- `authorize_tool_call_until_wait`. -/
def authorizeToolCallUntilWait (turn : Turn) (call : ModelToolCall)
    (modelRequestSha256 : String) (deadline : Option Nat) (waitTtlMs : Nat) :
    RuntimeM DurableAuthorization := do
  let (authorization, decision) ← decidePolicy x turn call deadline
  match decision with
  | .ask reason risk =>
    askUntilWait x turn call authorization modelRequestSha256 reason risk deadline waitTtlMs
  | .allow => do
    let turn ← record x.thread turn (policyDecisionKind authorization .allow)
    check (.ok (.authorized turn))
  | .deny reason => do
    let turn ← record x.thread turn (policyDecisionKind authorization (.deny reason))
    failWith x.thread turn (.policyDenied call.name reason)

end YHarness.Runtime

/-
# YHarness.Runtime.WaitOps -- the durable-wait operations of State

`start_approval_wait_as`, `accept_resume_as`, `deny_wait_as`, `close_wait_as` and
`claim_ready_as` of `src/state/mod.rs`.  Each validates its command against the
projected Turn, commits one event at the coordinates of that projection, and
gives an event that is already stored back to an exact retry.
-/
import YHarness.Runtime.StateOps
import YHarness.State.Wait

namespace YHarness.Runtime

open YHarness.Lib YHarness.Kernel YHarness.State

set_option autoImplicit false

/-! ## Checks -/

structure AgentLoopWaitStartCommand where
  waitId : AgentLoopWaitId
  request : ApprovalRequest
  completionGeneration : CompletionGeneration
  waitTtlMs : Nat
  remainingActiveTimeoutMs : Option UInt64

def requireRunningProjection (turn : Turn) : Except HarnessError Unit :=
  rejectIf (turn.status != .running) (.state s!"turn {turn.id} is not running")

/-- `bounded_wait_ttl_ms`. -/
def boundedWaitTtlMs (waitTtlMs : Nat) : Except HarnessError UInt64 := do
  rejectIf (decide (UInt64.size ≤ waitTtlMs)) (.state "Agent Loop wait duration exceeds u64")
  rejectIf (!waitMsInRange (UInt64.ofNat waitTtlMs))
    (.state s!"Agent Loop wait duration must be 1-{maxAgentLoopWaitMs} milliseconds")
  .ok (UInt64.ofNat waitTtlMs)

def asksFor (request : ApprovalRequest) (item : Item) : Bool :=
  match item.kind with
  | .policyDecision callId (some toolOrigin) (.ask reason risk) =>
    callId == request.authorization.callId && toolOrigin == request.authorization.origin &&
      reason == request.reason && risk == request.risk
  | _ => false

def requestsApproval (approvalId : ApprovalId) (item : Item) : Bool :=
  match item.kind with
  | .approvalRequested id .. => id == approvalId
  | _ => false

/-- `validate_approval_wait_request`. -/
def validateApprovalWaitRequest (thread : StoredThread) (turn : Turn) (request : ApprovalRequest)
    (modelRequestSha256 : String) (authority : AuthorityContext) : Except HarnessError Unit := do
  validateApprovalRequestShape request
  rejectIf (request.requestedBy != authority.actor ||
      request.authorization.threadId != thread.id || request.authorization.turnId != turn.id ||
      !isLowerSha256 modelRequestSha256)
    (.state "approval wait requester, Turn coordinates, or Model request digest differ")
  match (turn.items.find? (isCallOf request.authorization.callId)).map Item.kind with
  | some (.toolCall _ _ _ name input _) =>
    rejectIf (name != request.authorization.descriptor.name ||
        input != request.authorization.input)
      (.state "approval request differs from its durable ToolCall")
  | _ => .error (.state "approval wait has no matching durable ToolCall")
  rejectIf (!turn.items.any (asksFor request))
    (.state "approval wait has no matching durable Ask PolicyDecision")
  rejectIf (turn.items.any (requestsApproval request.id))
    (.state s!"approval {request.id} was already recorded")

/-- `wait_start_matches`. -/
def waitStartMatches (envelope : TurnWaitEnvelope) (command : AgentLoopWaitStartCommand)
    (waitTtlMs : UInt64) (authority : AuthorityContext) : Bool :=
  let lifetime := envelope.expiresAtMs.bind fun expiry =>
    if envelope.serverStartedAtMs ≤ expiry then some (expiry - envelope.serverStartedAtMs)
    else none
  envelope.waitKind ==
      ⟨command.request, command.completionGeneration.modelRequestSha256⟩ &&
    envelope.completionGeneration == command.completionGeneration &&
    envelope.tenantId == authority.tenantId && envelope.requestedBy == authority.actor &&
    lifetime == some waitTtlMs &&
    envelope.remainingActiveTimeoutMs == command.remainingActiveTimeoutMs

/-- `validate_wait_current_authority`. -/
def validateWaitCurrentAuthority (envelope : TurnWaitEnvelope) (waitId : AgentLoopWaitId)
    (expectedRevision currentRevision : UInt64) (authority : AuthorityContext) :
    Except HarnessError Unit :=
  rejectIf (envelope.waitId != waitId || expectedRevision != currentRevision ||
      envelope.requestedBy != authority.actor || envelope.tenantId != authority.tenantId)
    (.state "Agent Loop wait identity, current revision, requester, or tenant differs")

/-- `validate_wait_resume_authority`. -/
def validateWaitResumeAuthority (envelope : TurnWaitEnvelope) (waitId : AgentLoopWaitId)
    (expectedRevision : UInt64) (authority : AuthorityContext) : Except HarnessError Unit :=
  rejectIf (envelope.waitId != waitId || envelope.revision != 1 ||
      expectedRevision != envelope.revision || envelope.requestedBy != authority.actor ||
      envelope.tenantId != authority.tenantId)
    (.state "Agent Loop wait identity, revision, requester, or tenant differs")

/-- `validate_wait_not_expired`. -/
def validateWaitNotExpired (envelope : TurnWaitEnvelope) (serverNowMs : UInt64) :
    Except HarnessError Unit :=
  rejectIf (envelope.expiresAtMs.any fun expiry => decide (expiry ≤ serverNowMs))
    (.state s!"Agent Loop wait {envelope.waitId} expired")

/-- `wait_envelope_for_id`. -/
def waitEnvelopeForId [Sha256] (turn : Turn) (waitId : AgentLoopWaitId) :
    Except HarnessError (Option TurnWaitEnvelope) := do
  let matching := (waitEnvelopes turn.items).filter fun envelope => envelope.waitId == waitId
  checkAll validateWaitEnvelope matching
  rejectIf (decide (1 < matching.length))
    (.state s!"turn {turn.id} contains duplicate Agent Loop wait {waitId}")
  .ok matching.head?

/-- The evidence of wait events of one kind whose command is retried: they must
be the same. -/
def retryMatches {α : Type} (items : List Item) (evidence : Item → Option α)
    (isCommand same : α → Bool) (error : HarnessError) : Except HarnessError Bool := do
  let found := (items.filterMap evidence).filter isCommand
  rejectIf (found.any fun evidence => !same evidence) error
  .ok (!found.isEmpty)

def closureOf (item : Item) : Option WaitClosureEvidence :=
  match item.kind with
  | .agentLoopWaitClosed evidence => some evidence
  | _ => none

def denialOf (item : Item) : Option WaitDenialEvidence :=
  match item.kind with
  | .agentLoopWaitDenied evidence => some evidence
  | _ => none

/-- The Items of the stored event whose transition is of the given kind. -/
def storedPair (transition : ItemKind → Bool) : List Item → Option (Item × Item)
  | first :: second :: items =>
    if transition second.kind then some (first, second)
    else storedPair transition (second :: items)
  | _ => none

def storedTransition (turns : List Turn) (transition : ItemKind → Bool) :
    Option (Item × Item) :=
  turns.findSome? fun turn => storedPair transition turn.items

def startsWait (waitId : AgentLoopWaitId) : ItemKind → Bool
  | .agentLoopWaitStarted envelope => envelope.waitId == waitId
  | _ => false

def acceptsResume (commandId : AgentLoopResumeCommandId) (commandSha256 : String) :
    ItemKind → Bool
  | .agentLoopResumeAccepted evidence =>
    evidence.commandId == commandId && evidence.commandSha256 == commandSha256
  | _ => false

def claimsReady (claimId : AgentLoopClaimId) (claimSha256 : String) : ItemKind → Bool
  | .agentLoopReadyClaimed evidence =>
    evidence.claimId == claimId && evidence.claimSha256 == claimSha256
  | _ => false

/-! ## Operations -/

variable (thread : StoredThread) [Sha256]

/-- `agent_loop_execution_as`. -/
def agentLoopExecutionAs (turnId : TurnId) (authority : AuthorityContext) :
    RuntimeM (Option AgentLoopExecution) := do
  let turns ← requireThreadAs thread authority
  let turn ← check (orError (.state s!"turn {turnId} does not exist") (findTurn turns turnId))
  let execution ← check (agentLoopExecutionProjection turn)
  check (.ok (if turn.status = .running then execution else none))

/-- The Turn a wait command is about, as a projection at the coordinates of the
commit. -/
def loadWaitTurn (turn : Turn) (authority : AuthorityContext) : RuntimeM (List Turn × Turn) := do
  let turns ← ask .loadProjection
  check (thread.validateAuthority authority)
  let projected ← check (thread.projectedTurn turns turn)
  check (.ok (turns, projected))

/-- The two Items of a wait event, made at one time. -/
def newPair (atMs : UInt64) (first transition : ItemKind) : RuntimeM (Item × Item) := do
  let firstStamp ← ask .stamp
  let transitionStamp ← ask .stamp
  check (.ok (⟨firstStamp.id, atMs, first⟩, ⟨transitionStamp.id, atMs, transition⟩))

/-- The envelope a start command freezes at the server time `startedAtMs`. -/
def newEnvelope (turn : Turn) (command : AgentLoopWaitStartCommand) (waitTtlMs : UInt64)
    (authority : AuthorityContext) (startedAtMs : UInt64) :
    Except HarnessError TurnWaitEnvelope := do
  rejectIf (decide (UInt64.size ≤ startedAtMs.toNat + waitTtlMs.toNat))
    (.state "Agent Loop wait expiry overflow")
  let envelope : TurnWaitEnvelope :=
    { waitId := command.waitId
      revision := 1
      threadId := turn.threadId
      turnId := turn.id
      tenantId := authority.tenantId
      requestedBy := authority.actor
      serverStartedAtMs := startedAtMs
      expiresAtMs := some (startedAtMs + waitTtlMs)
      remainingActiveTimeoutMs := command.remainingActiveTimeoutMs
      completionGeneration := command.completionGeneration
      waitKind := ⟨command.request, command.completionGeneration.modelRequestSha256⟩
      envelopeSha256 := "" }
  let envelopeSha256 ← waitEnvelopeSha256 envelope
  let envelope := { envelope with envelopeSha256 }
  validateWaitEnvelope envelope
  .ok envelope

def approvalRequestedKind (request : ApprovalRequest) (modelRequestSha256 : String) : ItemKind :=
  .approvalRequested request.id request.authorization.callId
    request.authorization.descriptor.name request.reason request.risk
    (some request.requestedBy) (some request.authorization.origin) (some modelRequestSha256)

/-- The wait already open under this command, or the right to open one. -/
def existingStart (turns : List Turn) (projected : Turn) (command : AgentLoopWaitStartCommand)
    (waitTtlMs : UInt64) (authority : AuthorityContext) :
    Except HarnessError (Option (Item × Item)) := do
  let execution ← agentLoopExecutionProjection projected
  match execution with
  | none => .ok none
  | some execution =>
    if execution.waitId == command.waitId &&
        waitStartMatches execution.envelope command waitTtlMs authority then do
      let stored ← orError
        (.state s!"wait {command.waitId} is projected without its atomic event")
        (storedTransition turns (startsWait command.waitId))
      .ok (some stored)
    else do
      requireNewWaitBoundary projected execution
      .ok none

/-- The stored start of an append whose outcome is not known. -/
def recoveredStart (turn : Turn) (command : AgentLoopWaitStartCommand) (waitTtlMs : UInt64)
    (authority : AuthorityContext) (error : HarnessError) : RuntimeM (Item × Item) := do
  let turns ← ask .loadEvents
  match storedTransition turns (startsWait command.waitId) with
  | none => check (.error error)
  | some stored => do
    let turns ← requireThreadAs thread authority
    let projected ← check (thread.projectedTurn turns turn)
    let execution ← check (agentLoopExecutionProjection projected)
    let execution ← check (orError (.state "wait event has no execution projection") execution)
    if waitStartMatches execution.envelope command waitTtlMs authority then
      check (.ok stored)
    else check (.error error)

/-- `start_approval_wait_as`. -/
def startApprovalWaitAs (turn : Turn) (command : AgentLoopWaitStartCommand)
    (authority : AuthorityContext) : RuntimeM (Item × Item) := do
  check (authority.validateCurrent "Agent Loop wait authority")
  check (validateStateId "Agent Loop wait" command.waitId)
  let waitTtlMs ← check (boundedWaitTtlMs command.waitTtlMs)
  check (validateRemainingActiveTimeout command.remainingActiveTimeoutMs)
  check ((validateGeneration command.completionGeneration).mapError stateCompletionError)
  let (turns, projected) ← loadWaitTurn thread turn authority
  check (requireRunningProjection projected)
  let existing ← check (existingStart turns projected command waitTtlMs authority)
  match existing with
  | some stored => check (.ok stored)
  | none => do
    check (validateApprovalWaitRequest thread projected command.request
      command.completionGeneration.modelRequestSha256 authority)
    let startedAtMs ← ask .now
    let envelope ← check (newEnvelope turn command waitTtlMs authority startedAtMs)
    let (requested, transition) ← newPair startedAtMs
      (approvalRequestedKind command.request envelope.completionGeneration.modelRequestSha256)
      (.agentLoopWaitStarted envelope)
    let eventId ← check (agentLoopLifecycleEventId .waitStarted turn.threadId turn.id
      command.waitId)
    let outcome ← ask (.commit eventId startedAtMs (.waitStarted turn.id requested transition))
    match outcome with
    | .ok () => check (.ok (requested, transition))
    | .error error => recoveredStart thread turn command waitTtlMs authority error

/-- `resume_retry_matches`. -/
def resumeRetryMatches (commandId : AgentLoopResumeCommandId) (commandSha256 : String) :
    AgentLoopExecution → Bool
  | .ready _ resume | .executing _ resume _ =>
    resume.commandId == commandId && resume.commandSha256 == commandSha256
  | .waiting _ => false

/-- The resume a settlement of a waiting execution is accepted as. -/
def newResume (envelope : TurnWaitEnvelope) (waitId : AgentLoopWaitId)
    (expectedRevision : UInt64) (commandId : AgentLoopResumeCommandId) (commandSha256 : String)
    (settlement : ApprovalSettlementEvidence) (acceptedAtMs : UInt64) :
    Except HarnessError ResumeEvidence := do
  let revision ← orError (.state "Agent Loop revision overflow") (checkedSucc expectedRevision)
  let evidence : ResumeEvidence := ⟨waitId, expectedRevision, revision, commandId, commandSha256,
    settlement, acceptedAtMs⟩
  validateResumeEvidence envelope evidence
  .ok evidence

def decisionKind (settlement : ApprovalSettlementEvidence) : ItemKind :=
  .approvalDecision settlement.request.id settlement.request.authorization.callId
    settlement.decision

/-- `accept_resume_as`. -/
def acceptResumeAs (turn : Turn) (waitId : AgentLoopWaitId) (expectedRevision : UInt64)
    (commandId : AgentLoopResumeCommandId) (record : ApprovalRecord)
    (authority : AuthorityContext) : RuntimeM (Item × Item) := do
  check (authority.validateCurrent "Agent Loop resume authority")
  check (validateStateId "Agent Loop wait" waitId)
  check (validateStateId "Agent Loop resume command" commandId)
  let settlement ← check (approvalSettlementEvidence record)
  let commandSha256 ← check (resumeCommandSha256 turn.threadId turn.id waitId expectedRevision
    commandId settlement authority)
  let (turns, projected) ← loadWaitTurn thread turn authority
  check (requireRunningProjection projected)
  let execution ← check (agentLoopExecutionProjection projected)
  let execution ← check (orError (.state s!"turn {turn.id} has no durable wait") execution)
  if resumeRetryMatches commandId commandSha256 execution then
    check (orError (.state "resume projection has no atomic event")
      (storedTransition turns (acceptsResume commandId commandSha256)))
  else match execution with
    | .waiting envelope => do
      check (validateWaitResumeAuthority envelope waitId expectedRevision authority)
      let nowMs ← ask .now
      check (validateWaitNotExpired envelope nowMs)
      check (validateApprovalSettlement envelope settlement)
      let acceptedAtMs ← ask .now
      let evidence ← check (newResume envelope waitId expectedRevision commandId commandSha256
        settlement acceptedAtMs)
      let (decision, transition) ← newPair acceptedAtMs (decisionKind settlement)
        (.agentLoopResumeAccepted evidence)
      let eventId ← check (agentLoopLifecycleEventId .resumeAccepted turn.threadId turn.id
        commandId)
      let outcome ← ask (.commit eventId acceptedAtMs
        (.acceptResume turn.id decision transition))
      match outcome with
      | .ok () => check (.ok (decision, transition))
      | .error error => do
        let turns ← ask .loadEvents
        check (orError error (storedTransition turns (acceptsResume commandId commandSha256)))
    | _ => check (.error (.state
        s!"wait {waitId} is not waiting at revision {expectedRevision.toNat}"))

/-- `approval_denial_settlement_evidence`. -/
def approvalDenialSettlementEvidence (record : ApprovalRecord) :
    Except HarnessError ApprovalSettlementEvidence := do
  let settlement ← approvalSettlementEvidence record
  rejectIf (!settlement.decision.isDeny)
    (.state "atomic wait denial requires a settled Deny decision")
  .ok settlement

/-- The time of the transition a denial follows; the clock is read for a waiting
execution only. -/
def precedingTransition (settlement : ApprovalSettlementEvidence) :
    AgentLoopExecution → RuntimeM UInt64
  | .waiting envelope => do
    let nowMs ← ask .now
    check (validateWaitNotExpired envelope nowMs)
    check (.ok envelope.serverStartedAtMs)
  | .ready _ resume => do
    check (rejectIf (resume.settlement != settlement)
      (.state "Ready execution differs from the exact Approval denial"))
    check (.ok resume.acceptedAtMs)
  | .executing _ _ _ => check (.error (.state
      "an Executing Agent Loop wait cannot be denied before its effect settles"))

def newDenial (envelope : TurnWaitEnvelope) (waitId : AgentLoopWaitId)
    (expectedRevision : UInt64) (commandId : AgentLoopDenyCommandId) (commandSha256 : String)
    (settlement : ApprovalSettlementEvidence) (precedingMs deniedAtMs : UInt64) :
    Except HarnessError WaitDenialEvidence := do
  rejectIf (decide (deniedAtMs < precedingMs))
    (.state "Agent Loop denial precedes the current wait transition")
  let revision ← orError (.state "Agent Loop revision overflow") (checkedSucc expectedRevision)
  let evidence : WaitDenialEvidence := ⟨waitId, expectedRevision, revision, commandId,
    commandSha256, settlement, deniedAtMs⟩
  validateWaitDenialEvidence envelope evidence
  .ok evidence

def isDenial (commandId : AgentLoopDenyCommandId) (commandSha256 : String) : ItemKind → Bool
  | .agentLoopWaitDenied evidence =>
    evidence.commandId == commandId && evidence.commandSha256 == commandSha256
  | _ => false

def isClosure (commandId : AgentLoopCloseCommandId) (commandSha256 : String) : ItemKind → Bool
  | .agentLoopWaitClosed evidence =>
    evidence.commandId == commandId && evidence.commandSha256 == commandSha256
  | _ => false

/-- The outcome of a commit, unless the event is stored after all. -/
def orStored (outcome : Except HarnessError Unit) (transition : ItemKind → Bool) :
    RuntimeM Unit := do
  match outcome with
  | .ok () => check (.ok ())
  | .error error => do
    let turns ← ask .loadEvents
    check (if (storedTransition turns transition).isSome then .ok () else .error error)

/-- `deny_wait_as`. -/
def denyWaitAs (turn : Turn) (waitId : AgentLoopWaitId) (expectedRevision : UInt64)
    (commandId : AgentLoopDenyCommandId) (record : ApprovalRecord)
    (authority : AuthorityContext) : RuntimeM Unit := do
  check (authority.validateCurrent "Agent Loop denial authority")
  check (validateStateId "Agent Loop wait" waitId)
  check (validateStateId "Agent Loop denial command" commandId)
  let settlement ← check (approvalDenialSettlementEvidence record)
  let commandSha256 ← check (waitDenialCommandSha256 turn.threadId turn.id waitId
    expectedRevision commandId settlement authority)
  let (turns, projected) ← loadWaitTurn thread turn authority
  let envelope ← check (waitEnvelopeForId projected waitId)
  let envelope ← check (orError (.state s!"turn {turn.id} has no wait {waitId}") envelope)
  let retried ← check (retryMatches projected.items denialOf
    (fun evidence => evidence.commandId == commandId)
    (fun evidence => evidence.commandSha256 == commandSha256 && evidence.settlement == settlement)
    (.state s!"Agent Loop denial command {commandId} was reused with different content"))
  if retried then
    check (rejectIf (storedTransition turns (isDenial commandId commandSha256)).isNone
      (.state "wait denial projection has no atomic event"))
  else do
    check (requireRunningProjection projected)
    let execution ← check (agentLoopExecutionProjection projected)
    let execution ← check (orError (.state s!"turn {turn.id} has no live durable wait") execution)
    check (validateWaitCurrentAuthority execution.envelope waitId expectedRevision
      execution.revision authority)
    let precedingMs ← precedingTransition settlement execution
    check (validateApprovalSettlement envelope settlement)
    let deniedAtMs ← ask .now
    let evidence ← check (newDenial envelope waitId expectedRevision commandId commandSha256
      settlement precedingMs deniedAtMs)
    let (decision, transition) ← newPair deniedAtMs (decisionKind settlement)
      (.agentLoopWaitDenied evidence)
    let eventId ← check (agentLoopLifecycleEventId .waitDenied turn.threadId turn.id commandId)
    let outcome ← ask (.commit eventId deniedAtMs (.denyWait turn.id decision transition))
    orStored outcome (isDenial commandId commandSha256)

def newClosure (envelope : TurnWaitEnvelope) (execution : AgentLoopExecution)
    (command : AgentLoopWaitCloseCommand) (commandSha256 : String) (closedAtMs : UInt64) :
    Except HarnessError WaitClosureEvidence := do
  rejectIf (command.status == .timedOut &&
      execution.envelope.expiresAtMs.all fun expiry => decide (closedAtMs < expiry))
    (.state "TimedOut wait closure requires an elapsed server expiry")
  let revision ← orError (.state "Agent Loop revision overflow")
    (checkedSucc command.expectedRevision)
  let evidence : WaitClosureEvidence := ⟨command.waitId, command.expectedRevision, revision,
    command.commandId, command.status, command.reason, commandSha256, closedAtMs⟩
  validateWaitClosureEvidence envelope evidence
  .ok evidence

/-- The executions that only an atomic denial or their worker may settle. -/
def requireClosable : AgentLoopExecution → Except HarnessError Unit
  | .executing _ _ _ => .error (.state
      "an Executing Agent Loop wait cannot be closed as unclaimed")
  | .ready _ resume => rejectIf resume.settlement.decision.isDeny
      (.state ("an Agent Loop Ready state with an accepted Deny settlement must use atomic " ++
        "denial settlement"))
  | .waiting _ => .ok ()

/-- `close_wait_as`. -/
def closeWaitAs (turn : Turn) (command : AgentLoopWaitCloseCommand)
    (authority : AuthorityContext) : RuntimeM Unit := do
  check (authority.validateCurrent "Agent Loop wait close authority")
  check (validateStateId "Agent Loop wait" command.waitId)
  check (validateStateId "Agent Loop close command" command.commandId)
  check (validateWaitCloseStatus command.status command.reason)
  let (turns, projected) ← loadWaitTurn thread turn authority
  let envelope ← check (waitEnvelopeForId projected command.waitId)
  let envelope ← check (orError (.state s!"turn {turn.id} has no wait {command.waitId}") envelope)
  let commandSha256 ← check (waitCloseCommandSha256 turn.threadId turn.id command authority)
  let retried ← check (retryMatches projected.items closureOf
    (fun evidence => evidence.commandId == command.commandId)
    (fun evidence => evidence.commandSha256 == commandSha256 &&
      evidence.status == command.status && evidence.reason == command.reason)
    (.state s!"Agent Loop close command {command.commandId} was reused with different content"))
  if retried then
    check (rejectIf (storedTransition turns (isClosure command.commandId commandSha256)).isNone
      (.state "wait closure projection has no atomic event"))
  else do
    check (requireRunningProjection projected)
    let execution ← check (agentLoopExecutionProjection projected)
    let execution ← check (orError (.state s!"turn {turn.id} has no live durable wait") execution)
    check (rejectIf (!execution.isOpen)
      (.state "an Executing Agent Loop wait cannot be closed as unclaimed"))
    check (validateWaitCurrentAuthority execution.envelope command.waitId
      command.expectedRevision execution.revision authority)
    check (requireClosable execution)
    let closedAtMs ← ask .now
    let evidence ← check (newClosure envelope execution command commandSha256 closedAtMs)
    let (stopped, transition) ← newPair closedAtMs (.turnStopped command.reason .approval)
      (.agentLoopWaitClosed evidence)
    let eventId ← check (agentLoopLifecycleEventId .waitClosed turn.threadId turn.id
      command.commandId)
    let outcome ← ask (.commit eventId closedAtMs
      (.waitClosed turn.id stopped transition command.status))
    orStored outcome (isClosure command.commandId commandSha256)

def claimRetryMatches (claimId : AgentLoopClaimId) (claimSha256 : String) :
    AgentLoopExecution → Bool
  | .executing _ _ claim => claim.claimId == claimId && claim.claimSha256 == claimSha256
  | _ => false

/-- The checks of a claim on the ready execution. -/
def validateReadyClaim (envelope : TurnWaitEnvelope) (resume : ResumeEvidence)
    (command : AgentLoopReadyClaimCommand) (authority : AuthorityContext) :
    Except HarnessError Unit := do
  validateWaitResumeAuthority envelope command.waitId envelope.revision authority
  rejectIf (command.expectedRevision != resume.revision ||
      command.resumeCommandId != resume.commandId)
    (.state "Agent Loop claim does not match the ready revision or resume command")
  rejectIf resume.settlement.decision.isDeny
    (.state ("an Agent Loop Ready state with an accepted Deny settlement cannot be " ++
      "claimed"))

def newClaim (envelope : TurnWaitEnvelope) (resume : ResumeEvidence)
    (command : AgentLoopReadyClaimCommand) (claimSha256 : String) (claimedAtMs : UInt64) :
    Except HarnessError ExecutionClaimEvidence := do
  let revision ← orError (.state "Agent Loop revision overflow")
    (checkedSucc command.expectedRevision)
  let evidence : ExecutionClaimEvidence := ⟨command.waitId, command.expectedRevision, revision,
    command.resumeCommandId, command.claimId, command.workerId, claimSha256, claimedAtMs⟩
  validateClaimEvidence envelope resume evidence
  .ok evidence

/-- `claim_ready_as`. -/
def claimReadyAs (turn : Turn) (command : AgentLoopReadyClaimCommand)
    (authority : AuthorityContext) : RuntimeM Item := do
  check (authority.validateCurrent "Agent Loop claim authority")
  check (validateStateId "Agent Loop wait" command.waitId)
  check (validateStateId "Agent Loop resume command" command.resumeCommandId)
  check (validateStateId "Agent Loop claim" command.claimId)
  check (validateStateId "Agent Loop worker" command.workerId)
  let claimSha256 ← check (executionClaimSha256 turn.threadId turn.id command authority)
  let (turns, projected) ← loadWaitTurn thread turn authority
  check (requireRunningProjection projected)
  let execution ← check (agentLoopExecutionProjection projected)
  let execution ← check (orError (.state s!"turn {turn.id} has no durable wait") execution)
  if claimRetryMatches command.claimId claimSha256 execution then do
    let stored ← check (orError (.state "claim projection has no atomic event")
      (storedTransition turns (claimsReady command.claimId claimSha256)))
    check (.ok stored.2)
  else match execution with
    | .ready envelope resume => do
      check (validateReadyClaim envelope resume command authority)
      let nowMs ← ask .now
      check (validateWaitNotExpired envelope nowMs)
      let claimedAtMs ← ask .now
      let evidence ← check (newClaim envelope resume command claimSha256 claimedAtMs)
      let stamp ← ask .stamp
      let transition : Item := ⟨stamp.id, claimedAtMs, .agentLoopReadyClaimed evidence⟩
      let eventId ← check (agentLoopLifecycleEventId .readyClaimed turn.threadId turn.id
        command.claimId)
      let outcome ← ask (.commit eventId claimedAtMs (.claimReady turn.id transition))
      match outcome with
      | .ok () => check (.ok transition)
      | .error error => do
        let turns ← ask .loadEvents
        let stored ← check (orError error
          (storedTransition turns (claimsReady command.claimId claimSha256)))
        check (.ok stored.2)
    | _ => check (.error (.state
        s!"wait {command.waitId} is not ready at revision {command.expectedRevision.toNat}"))

end YHarness.Runtime

/-
# YHarness.Handoff.Aggregate -- the Human Handoff aggregate

`HumanHandoff.new` and `HumanHandoff.apply` are the command path: they check a
command against the current status and append one transition.
`HumanHandoff.validate` is the replay path: it folds the transitions with checks of
its own (`Replay.applyKind`) and compares the projection with the record.
-/
import YHarness.Handoff.Types

namespace YHarness.Handoff

open YHarness.Lib YHarness.Kernel

set_option autoImplicit false

section Paths

variable [Sha256]

/-! ## Digests -/

/-- The encoding of `AttributedCommand`. -/
def attributedCommand (actor : ActorIdentity) (command : Json) : Json :=
  .obj [("actor", actor.toJson), ("command", command)]

def attributedDigest (actor : ActorIdentity) (command : Json) : Except HarnessError String := do
  validateActor actor
  let attributed := attributedCommand actor command
  let size ← (boundedSerializedSize attributed maxHandoffCommandJsonBytes).mapError
    (boundedError "command" maxHandoffCommandJsonBytes)
  rejectIf (size == 0) (.humanHandoff "Human Handoff command encoding is empty")
  .ok (Sha256.digest (.json attributed))

/-- The command a transition other than a creation records. -/
def transitionCommandKind : HumanHandoffTransitionKind → Option HumanHandoffCommandKind
  | .created .. => none
  | .claimed claimId leaseDurationMs => some (.claim claimId leaseDurationMs)
  | .claimRenewed claimId leaseDurationMs _ => some (.renewClaim claimId leaseDurationMs)
  | .claimReleased claimId reasonCode => some (.releaseClaim claimId reasonCode)
  | .claimExpired claimId => some (.expireClaim claimId)
  | .resolved claimId outcomeCode summary => some (.resolve claimId outcomeCode summary)
  | .cancelled reasonCode => some (.cancel reasonCode)

/-- The JSON of the request or command a transition records. -/
def recordedJson (commandId : HumanHandoffCommandId) (kind : HumanHandoffTransitionKind) : Json :=
  match kind with
  | .created subject queue reasonCode priority =>
    HumanHandoffCreateRequest.toJson ⟨commandId, subject, queue, reasonCode, priority⟩
  | _ =>
    match transitionCommandKind kind with
    | some command => HumanHandoffCommand.toJson ⟨commandId, command⟩
    | none => .null

def transitionDigest (transition : HumanHandoffTransition) : Except HarnessError String :=
  attributedDigest transition.actor (recordedJson transition.commandId transition.kind)

def validateCreateRequest (request : HumanHandoffCreateRequest) : Except HarnessError Unit := do
  validateIdentity "Human Handoff command" request.commandId
  validateSubject request.subject
  validateCapabilityName "Human Handoff queue" request.queue
  validateCapabilityName "Human Handoff reason" request.reasonCode

def validateCommand (command : HumanHandoffCommand) : Except HarnessError Unit := do
  validateIdentity "Human Handoff command" command.id
  let _ ← (boundedSerializedSize command.toJson maxHandoffCommandJsonBytes).mapError
    (boundedError "command" maxHandoffCommandJsonBytes)
  .ok ()

/-! ## The replay path -/

/-- What the creation fixes: the five `projected_*` options that are set with it. -/
structure HandoffRequest where
  subject : HumanHandoffSubject
  queue : String
  reasonCode : String
  priority : UInt8
  requestedAtMs : UInt64
deriving DecidableEq

/-- The loop state of `validate`. -/
structure Replay where
  expectedSequence : UInt64
  commandIds : List HumanHandoffCommandId
  claimIds : List HumanHandoffClaimId
  request : Option HandoffRequest
  status : Option HumanHandoffStatus
  previousAppliedAtMs : UInt64

def validateProjectedOwner (status : Option HumanHandoffStatus) (claimId : HumanHandoffClaimId)
    (actor : ActorIdentity) (appliedAtMs : UInt64) (action : String) : Except HarnessError Unit :=
  match status with
  | some (.claimed claim) =>
    rejectIf (claim.id != claimId || claim.owner != actor ||
        decide (claim.expiresAtMs ≤ appliedAtMs))
      (.humanHandoff s!"Human Handoff {action} differs from its active claim")
  | _ => .error (.humanHandoff s!"Human Handoff {action} does not follow claimed state")

namespace Replay

def start : Replay :=
  ⟨1, [], [], none, none, 0⟩

/-- The checks of one transition that depend on what it records. -/
def applyKind (r : Replay) (transition : HumanHandoffTransition) : Except HarnessError Replay :=
  match transition.kind with
  | .created subject queue reasonCode priority => do
    rejectIf (transition.sequence != 1)
      (.humanHandoff "Human Handoff creation must be the first transition")
    validateSubject subject
    validateCapabilityName "Human Handoff queue" queue
    validateCapabilityName "Human Handoff reason" reasonCode
    .ok { r with
      request := some ⟨subject, queue, reasonCode, priority, transition.appliedAtMs⟩
      status := some .queued }
  | .claimed claimId leaseDurationMs => do
    rejectIf (r.status != some .queued)
      (.humanHandoff "Human Handoff claim does not follow queued state")
    validateIdentity "Human Handoff claim" claimId
    validateLeaseDuration leaseDurationMs
    rejectIf (r.claimIds.contains claimId)
      (.humanHandoff "Human Handoff contains duplicate claim identities")
    let expiresAtMs ← leaseExpiration transition.appliedAtMs leaseDurationMs
    .ok { r with
      claimIds := claimId :: r.claimIds
      status := some (.claimed ⟨claimId, transition.actor, transition.appliedAtMs,
        expiresAtMs⟩) }
  | .claimRenewed claimId leaseDurationMs previousExpiresAtMs => do
    validateLeaseDuration leaseDurationMs
    match r.status with
    | some (.claimed claim) => do
      rejectIf (claim.id != claimId || claim.owner != transition.actor ||
          claim.expiresAtMs != previousExpiresAtMs ||
          decide (claim.expiresAtMs ≤ transition.appliedAtMs))
        (.humanHandoff "Human Handoff renewal differs from its active claim")
      let expiresAtMs ← leaseExpiration transition.appliedAtMs leaseDurationMs
      rejectIf (decide (expiresAtMs ≤ claim.expiresAtMs))
        (.humanHandoff "Human Handoff renewal does not extend its claim")
      .ok { r with status := some (.claimed { claim with expiresAtMs }) }
    | _ => .error (.humanHandoff "Human Handoff renewal does not follow claimed state")
  | .claimReleased claimId reasonCode => do
    validateCapabilityName "Human Handoff release reason" reasonCode
    validateProjectedOwner r.status claimId transition.actor transition.appliedAtMs "release"
    .ok { r with status := some .queued }
  | .claimExpired claimId =>
    match r.status with
    | some (.claimed claim) => do
      rejectIf (claim.id != claimId || decide (transition.appliedAtMs < claim.expiresAtMs))
        (.humanHandoff "Human Handoff expiration differs from its claim")
      .ok { r with status := some .queued }
    | _ => .error (.humanHandoff "Human Handoff expiration does not follow claimed state")
  | .resolved claimId outcomeCode summary => do
    validateCapabilityName "Human Handoff outcome" outcomeCode
    validateText "Human Handoff resolution summary" summary
    validateProjectedOwner r.status claimId transition.actor transition.appliedAtMs "resolution"
    .ok { r with status := some (.resolved outcomeCode summary) }
  | .cancelled reasonCode => do
    rejectIf (r.status.all HumanHandoffStatus.isTerminal)
      (.humanHandoff "Human Handoff cancellation does not follow nonterminal state")
    validateCapabilityName "Human Handoff cancellation reason" reasonCode
    .ok { r with status := some (.cancelled reasonCode) }

/-- One round of the loop. -/
def step (r : Replay) (transition : HumanHandoffTransition) : Except HarnessError Replay := do
  rejectIf (transition.sequence != r.expectedSequence)
    (.humanHandoff "Human Handoff transition sequence is not contiguous")
  let expectedSequence ← checkedSequence r.expectedSequence.toNat
  validateIdentity "Human Handoff command" transition.commandId
  validateDigest transition.commandSha256
  validateApplicationTime transition.appliedAtMs
  rejectIf (decide (transition.appliedAtMs < r.previousAppliedAtMs))
    (.humanHandoff "Human Handoff transition time is not monotonic")
  validateActor transition.actor
  let digest ← transitionDigest transition
  rejectIf (transition.commandSha256 != digest)
    (.humanHandoff "Human Handoff command digest differs from transition content")
  rejectIf (decide (maxHandoffWorkTransitions < transition.sequence.toNat) &&
      transition.kind.capacityClass == .work)
    (.humanHandoff "Human Handoff work transition consumed the settlement reserve")
  rejectIf (r.commandIds.contains transition.commandId)
    (.humanHandoff "Human Handoff contains duplicate command identities")
  { r with
    expectedSequence
    commandIds := transition.commandId :: r.commandIds
    previousAppliedAtMs := transition.appliedAtMs }.applyKind transition

def run (transitions : List HumanHandoffTransition) : Except HarnessError Replay :=
  transitions.foldlM step start

end Replay

namespace HumanHandoff

/-- What a Handoff keeps of its creation. -/
def request (h : HumanHandoff) : HandoffRequest :=
  ⟨h.subject, h.queue, h.reasonCode, h.priority, h.requestedAtMs⟩

def validate (h : HumanHandoff) : Except HarnessError Unit := do
  validateSubject h.subject
  validateCapabilityName "Human Handoff queue" h.queue
  validateCapabilityName "Human Handoff reason" h.reasonCode
  validateApplicationTime h.requestedAtMs
  rejectIf (h.transitions.isEmpty || decide (maxHandoffTransitions < h.transitions.length))
    (.humanHandoff s!"Human Handoff must retain 1-{maxHandoffTransitions} transitions")
  let replayed ← Replay.run h.transitions
  rejectIf (replayed.request != some h.request || replayed.status != some h.status)
    (.humanHandoff "Human Handoff projection differs from immutable transitions")

/-! ## The command path -/

def encodedSizeFor (h : HumanHandoff) (capacityClass : HumanHandoffCapacityClass) :
    Except HarnessError Nat := do
  let size ← (boundedSerializedSize h.toJson maxHandoffJsonBytes).mapError
    (boundedError "aggregate" maxHandoffJsonBytes)
  validateMaterializationCapacity size capacityClass
  .ok size

def encodedSize (h : HumanHandoff) : Except HarnessError Nat :=
  h.encodedSizeFor .settlement

def new (request : HumanHandoffCreateRequest) (appliedAtMs : UInt64)
    (authority : AuthorityContext) : Except HarnessError HumanHandoff := do
  validateCreateRequest request
  validateApplicationTime appliedAtMs
  authority.validateCurrent "Human Handoff creation authority"
  let commandSha256 ← attributedDigest authority.actor request.toJson
  let handoff : HumanHandoff :=
    { subject := request.subject
      queue := request.queue
      reasonCode := request.reasonCode
      priority := request.priority
      requestedAtMs := appliedAtMs
      status := .queued
      transitions := [⟨1, request.commandId, commandSha256, appliedAtMs, authority.actor,
        .created request.subject request.queue request.reasonCode request.priority⟩]
      materializationChargeBytes := 0 }
  handoff.validate
  let materializationChargeBytes ← handoff.encodedSize
  .ok { handoff with materializationChargeBytes }

/-- Whether the Handoff was created by this request of this actor. -/
def createMatches (h : HumanHandoff) (request : HumanHandoffCreateRequest)
    (actor : ActorIdentity) : Except HarnessError Bool := do
  let digest ← attributedDigest actor request.toJson
  .ok (h.transitions.head?.any fun t =>
    t.commandId == request.commandId && t.commandSha256 == digest)

/-- Whether a command with this identity was applied; an error when it was another
command or another actor's. -/
def recognizesCommand (h : HumanHandoff) (command : HumanHandoffCommand) (actor : ActorIdentity) :
    Except HarnessError Bool := do
  validateCommand command
  validateActor actor
  let digest ← attributedDigest actor command.toJson
  match h.transitions.find? fun t => t.commandId == command.id with
  | none => .ok false
  | some existing =>
    if existing.commandSha256 == digest then .ok true
    else .error (.humanHandoff (s!"Human Handoff command {command.id} was reused by a " ++
      "different actor or with different content"))

end HumanHandoff

/-- `active_owned_claim` and `active_owned_claim_mut`. -/
def activeOwnedClaim (status : HumanHandoffStatus) (claimId : HumanHandoffClaimId)
    (actor : ActorIdentity) (appliedAtMs : UInt64) (action : String) :
    Except HarnessError HumanHandoffClaim :=
  match status with
  | .claimed claim => do
    rejectIf (claim.id != claimId || claim.owner != actor)
      (.humanHandoff s!"Human Handoff {action} does not match the current owner and claim")
    rejectIf (decide (claim.expiresAtMs ≤ appliedAtMs))
      (.humanHandoff s!"Human Handoff claim expired before {action}")
    .ok claim
  | _ => .error (.humanHandoff s!"Human Handoff must be claimed to {action}")

def validateNewClaimId (transitions : List HumanHandoffTransition)
    (claimId : HumanHandoffClaimId) : Except HarnessError Unit := do
  validateIdentity "Human Handoff claim" claimId
  rejectIf (transitions.any fun t =>
      match t.kind with
      | .claimed existing _ => existing == claimId
      | _ => false)
    (.humanHandoff s!"Human Handoff claim {claimId} is already committed")

namespace HumanHandoff

/-- The status after a command and the transition that records it. -/
def applyKind (h : HumanHandoff) (kind : HumanHandoffCommandKind) (appliedAtMs : UInt64)
    (actor : ActorIdentity) :
    Except HarnessError (HumanHandoffStatus × HumanHandoffTransitionKind) :=
  match kind with
  | .claim claimId leaseDurationMs => do
    rejectIf (h.status != .queued) (.humanHandoff "Human Handoff must be queued before claim")
    validateNewClaimId h.transitions claimId
    validateLeaseDuration leaseDurationMs
    let expiresAtMs ← leaseExpiration appliedAtMs leaseDurationMs
    .ok (.claimed ⟨claimId, actor, appliedAtMs, expiresAtMs⟩, .claimed claimId leaseDurationMs)
  | .renewClaim claimId leaseDurationMs => do
    validateLeaseDuration leaseDurationMs
    let claim ← activeOwnedClaim h.status claimId actor appliedAtMs "renew"
    let expiresAtMs ← leaseExpiration appliedAtMs leaseDurationMs
    rejectIf (decide (expiresAtMs ≤ claim.expiresAtMs))
      (.humanHandoff "Human Handoff renewal must extend the current lease")
    .ok (.claimed { claim with expiresAtMs },
      .claimRenewed claimId leaseDurationMs claim.expiresAtMs)
  | .releaseClaim claimId reasonCode => do
    validateCapabilityName "Human Handoff release reason" reasonCode
    let _ ← activeOwnedClaim h.status claimId actor appliedAtMs "release"
    .ok (.queued, .claimReleased claimId reasonCode)
  | .expireClaim claimId =>
    match h.status with
    | .claimed claim => do
      rejectIf (claim.id != claimId)
        (.humanHandoff "Human Handoff expiration does not match the current claim")
      rejectIf (decide (appliedAtMs < claim.expiresAtMs))
        (.humanHandoff "Human Handoff claim is not expired")
      .ok (.queued, .claimExpired claimId)
    | _ => .error (.humanHandoff "Human Handoff has no current claim to expire")
  | .resolve claimId outcomeCode summary => do
    validateCapabilityName "Human Handoff outcome" outcomeCode
    validateText "Human Handoff resolution summary" summary
    let _ ← activeOwnedClaim h.status claimId actor appliedAtMs "resolve"
    .ok (.resolved outcomeCode summary, .resolved claimId outcomeCode summary)
  | .cancel reasonCode => do
    rejectIf h.status.isTerminal (.humanHandoff "terminal Human Handoff cannot be cancelled")
    validateCapabilityName "Human Handoff cancellation reason" reasonCode
    .ok (.cancelled reasonCode, .cancelled reasonCode)

/-- The Handoff after a command and whether it changed; an error changes nothing. -/
def apply (h : HumanHandoff) (command : HumanHandoffCommand) (appliedAtMs : UInt64)
    (authority : AuthorityContext) :
    Except HarnessError (HumanHandoff × HumanHandoffApplyOutcome) := do
  let recognized ← h.recognizesCommand command authority.actor
  if recognized then .ok (h, .duplicate)
  else do
    validateApplicationTime appliedAtMs
    authority.validateCurrent "Human Handoff command authority"
    validateTransitionCapacity h.transitions.length command.kind.capacityClass
    rejectIf (h.transitions.getLast?.any fun t => decide (appliedAtMs < t.appliedAtMs))
      (.humanHandoff "Human Handoff application time cannot move backwards")
    let commandSha256 ← attributedDigest authority.actor command.toJson
    let (status, kind) ← h.applyKind command.kind appliedAtMs authority.actor
    let sequence ← checkedSequence h.transitions.length
    let next : HumanHandoff :=
      { h with
        status
        transitions := h.transitions ++
          [⟨sequence, command.id, commandSha256, appliedAtMs, authority.actor, kind⟩] }
    next.validate
    let materializationChargeBytes ← next.encodedSizeFor command.kind.capacityClass
    .ok ({ next with materializationChargeBytes }, .applied)

/-- The Handoffs that a creation and commands build. -/
inductive Reachable : HumanHandoff → Prop
  | new {request : HumanHandoffCreateRequest} {appliedAtMs : UInt64}
      {authority : AuthorityContext} {h : HumanHandoff}
      (created : HumanHandoff.new request appliedAtMs authority = .ok h) : Reachable h
  | apply {h next : HumanHandoff} (reached : Reachable h) {command : HumanHandoffCommand}
      {appliedAtMs : UInt64} {authority : AuthorityContext} {outcome : HumanHandoffApplyOutcome}
      (accepted : h.apply command appliedAtMs authority = .ok (next, outcome)) : Reachable next

/-- Commands one after the other. -/
def applyAll (h : HumanHandoff) (commands : List (HumanHandoffCommand × UInt64 × AuthorityContext)) :
    Except HarnessError HumanHandoff :=
  commands.foldlM (fun h (command, appliedAtMs, authority) => do
    let (next, _) ← h.apply command appliedAtMs authority
    .ok next) h

theorem Reachable.applyAll {h last : HumanHandoff} (reached : Reachable h)
    {commands : List (HumanHandoffCommand × UInt64 × AuthorityContext)}
    (ran : h.applyAll commands = .ok last) : Reachable last := by
  refine foldlM_history (fun _ h => Reachable h) reached (fun _ _ _ _ _ reached moved => ?_) ran
  obtain ⟨_, accepted, moved⟩ := bind_eq_ok.1 moved
  cases moved
  exact .apply reached accepted

end HumanHandoff

end Paths

/-! ## A sample -/

namespace HumanHandoff

section Sample

attribute [local instance] constantSha256

def sampleAuthority (subject : String) : AuthorityContext :=
  ⟨.authenticated "test" subject, some "tenant"⟩

def sampleRequest : HumanHandoffCreateRequest :=
  ⟨"create", .thread "thread", "support.primary", "agent.escalation", 7⟩

def sampleCreated : HumanHandoff :=
  (HumanHandoff.new sampleRequest 10 (sampleAuthority "requester")).toOption.getD
    ⟨.thread "", "", "", 0, 0, .queued, [], 0⟩

/-- A claim that expires, and a second one that is released. -/
def sampleCommands : List (HumanHandoffCommand × UInt64 × AuthorityContext) :=
  [(⟨"take", .claim "first" 1000⟩, 20, sampleAuthority "alice"),
    (⟨"lapse", .expireClaim "first"⟩, 1020, sampleAuthority "queue"),
    (⟨"retake", .claim "second" 1000⟩, 2000, sampleAuthority "bob"),
    (⟨"return", .releaseClaim "second" "shift.end"⟩, 2500, sampleAuthority "bob")]

def sampleHandoff : HumanHandoff :=
  (sampleCreated.applyAll sampleCommands).toOption.getD sampleCreated

theorem sampleHandoff_reachable : Reachable sampleHandoff := by
  have created : HumanHandoff.new sampleRequest 10 (sampleAuthority "requester") =
      .ok sampleCreated := eq_ok_getD _ (by decide +kernel)
  have ran : sampleCreated.applyAll sampleCommands = .ok sampleHandoff :=
    eq_ok_getD _ (by decide +kernel)
  exact (Reachable.new created).applyAll ran

end Sample

end HumanHandoff

end YHarness.Handoff

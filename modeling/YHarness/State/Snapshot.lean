/-
# YHarness.State.Snapshot -- what a snapshot must satisfy

`StateSnapshot` and `validate_snapshot` of `src/state/mod.rs`.  The validator
re-derives the events behind a projection from the projection alone: it regroups
each Turn's Items into the events that appended them and tallies their number
and recovery charge.
-/
import YHarness.State.Project

namespace YHarness.State

open YHarness.Lib YHarness.Kernel

set_option autoImplicit false

def stateSnapshotSchemaVersion : Nat := 16
def maxStateSnapshotBytes : Nat := 67108864

structure StateSnapshot where
  schemaVersion : Nat
  thread : Thread
  metadataEvents : List StateEvent
  throughSequence : Nat
  streamVersion : Nat
  recoveryBytes : Nat
  anchorEventId : EventId
  projectionSha256 : String
  createdAtMs : UInt64

def StateSnapshot.toJson (s : StateSnapshot) : Json :=
  .obj [("schema_version", .nat s.schemaVersion), ("thread", s.thread.toJson),
    ("metadata_events", .arr (s.metadataEvents.map StateEvent.toJson)),
    ("through_sequence", .nat s.throughSequence), ("stream_version", .nat s.streamVersion),
    ("recovery_bytes", .nat s.recoveryBytes), ("anchor_event_id", .str s.anchorEventId),
    ("projection_sha256", .str s.projectionSha256), ("created_at_ms", jsonU64 s.createdAtMs)]

/-- `projection_sha256`. -/
def projectionSha256 [Sha256] (thread : Thread) (metadataEvents : List StateEvent) : String :=
  Sha256.digest (.json (.arr [thread.toJson, .arr (metadataEvents.map StateEvent.toJson)]))

/-! ## Regrouping Items into events -/

/-- The number of Items the event that appended `item` carried, read off the
Item and the one after it. -/
def groupSize (item : Item) (next : Option Item) : Except HarnessError Nat :=
  match item.kind with
  | .toolCall _ _ _ _ _ (some batch) =>
    if batch.index = 0 then .ok batch.size
    else .error (.state "State snapshot starts inside a Tool-call batch")
  | .approvalRequested .. => .ok (match next with
      | some ⟨_, _, .agentLoopWaitStarted envelope⟩ =>
        if approvalRequestedMatchesEnvelope item envelope then 2 else 1
      | _ => 1)
  | .approvalDecision .. => .ok (match next with
      | some ⟨_, _, .agentLoopResumeAccepted evidence⟩ =>
        if approvalDecisionMatchesResume item evidence then 2 else 1
      | some ⟨_, _, .agentLoopWaitDenied evidence⟩ =>
        if approvalDecisionMatchesDenial item evidence then 2 else 1
      | _ => 1)
  | .turnStopped .. => .ok (match next with
      | some ⟨_, _, .agentLoopWaitClosed evidence⟩ =>
        if turnStoppedMatchesClosure item evidence then 2 else 1
      | _ => 1)
  | .agentLoopWaitStarted _ | .agentLoopResumeAccepted _ | .agentLoopWaitClosed _
  | .agentLoopWaitDenied _ => .error (.state
      "State snapshot starts inside an Agent Loop compound transition")
  | _ => .ok 1

/-- The event that appended a group, and the status a closing event gives its
Turn. -/
def regroupedEvent (turnId : TurnId) (items : List Item) :
    Except HarnessError (StateEvent × Option TurnStatus) :=
  match items with
  | [item] =>
    match item.kind with
    | .toolCall _ _ _ _ _ (some _) => .ok (.toolCallsAppended turnId items, none)
    | .agentLoopReadyClaimed _ => .ok (.claimReady turnId item, none)
    | _ => .ok (.itemAppended turnId item, none)
  | [first, transition] =>
    match first.kind, transition.kind with
    | .toolCall _ _ _ _ _ (some _), _ => .ok (.toolCallsAppended turnId items, none)
    | .approvalRequested .., .agentLoopWaitStarted _ =>
      .ok (.waitStarted turnId first transition, none)
    | .approvalDecision .., .agentLoopResumeAccepted _ =>
      .ok (.acceptResume turnId first transition, none)
    | .approvalDecision .., .agentLoopWaitDenied _ =>
      .ok (.denyWait turnId first transition, some .failed)
    | .turnStopped .., .agentLoopWaitClosed evidence =>
      .ok (.waitClosed turnId first transition evidence.status, some evidence.status)
    | _, _ => .error (.state "State snapshot contains an invalid compound Item sequence")
  | first :: _ =>
    match first.kind with
    | .toolCall _ _ _ _ _ (some _) => .ok (.toolCallsAppended turnId items, none)
    | _ => .error (.state "State snapshot contains an invalid compound Item sequence")
  | [] => .error (.state "State snapshot contains an invalid compound Item sequence")

/-- What the validator accumulates. -/
structure SnapshotTally where
  itemIds : List ItemId
  events : Nat
  recoveryBytes : Nat

/-- Count one represented event and its charge. -/
def SnapshotTally.represent (tally : SnapshotTally) (event : StateEvent) :
    Except HarnessError SnapshotTally := do
  let charge ← encodeStateEvent event
  .ok { tally with events := tally.events + 1, recoveryBytes := tally.recoveryBytes + charge }

/-- The Items of one group: valid, with identities not seen before. -/
def tallyItems [Sha256] (tally : SnapshotTally) : List Item → Except HarnessError SnapshotTally
  | [] => .ok tally
  | item :: rest => do
    validateStateId "snapshot item" item.id
    validateStateItem item
    rejectIf (decide (item.id ∈ tally.itemIds))
      (.state "State snapshot contains a duplicate Item")
    tallyItems { tally with itemIds := tally.itemIds ++ [item.id] } rest

/-- The loop over the Items of one Turn.  The source jumps past a group; here
`skip` counts the Items still inside it.  The status a closing event gives is
returned with the tally. -/
def tallyTurnItems [Sha256] (turnId : TurnId) :
    Nat → SnapshotTally → Option TurnStatus → List Item →
      Except HarnessError (SnapshotTally × Option TurnStatus)
  | _, tally, closed, [] => .ok (tally, closed)
  | skip + 1, tally, closed, _ :: rest => tallyTurnItems turnId skip tally closed rest
  | 0, tally, closed, item :: rest => do
    let count ← groupSize item rest.head?
    rejectIf (decide ((item :: rest).length < count))
      (.state "State snapshot contains a truncated Tool-call batch")
    let items := (item :: rest).take count
    checkIf (isBatchedCall item.kind) (validateToolCallBatchItems items)
    let tally ← tallyItems tally items
    let (event, status) ← regroupedEvent turnId items
    rejectIf (status.isSome && (item :: rest).length != count)
      (.state (if status = some .failed
        then "State snapshot contains Items after an Agent Loop wait denial"
        else "State snapshot contains Items after an Agent Loop wait closure"))
    rejectIf (status.isSome && closed.isSome)
      (.state (if status = some .failed
        then "State snapshot contains multiple Agent Loop wait terminal events"
        else "State snapshot contains multiple Agent Loop wait closures"))
    validateStateEvent event
    let tally ← tally.represent event
    tallyTurnItems turnId (count - 1) tally (status.orElse fun _ => closed) rest

/-! ## The projected Thread -/

/-- The terminal event behind a Turn's status. -/
def tallyTurnEnd [Sha256] (thread : Thread) (turn : Turn) (closed : Option TurnStatus)
    (tally : SnapshotTally) : Except HarnessError SnapshotTally :=
  match closed with
  | some status => do
    rejectIf (turn.status != status || turn.completionReceipt.isSome)
      (.state "State snapshot wait closure differs from its terminal Turn")
    .ok tally
  | none =>
    match turn.status, turn.completionReceipt with
    | .running, none => .ok tally
    | .running, some _ =>
      .error (.state "State snapshot contains a receipt on a running Turn")
    | .completed, some receipt => do
      validateProjectedCompletionPlacement thread turn receipt
      tally.represent (.turnCompleted turn.id receipt)
    | _, some _ =>
      .error (.state "State snapshot contains a receipt on a non-completed Turn")
    | status, none => tally.represent (.turnFinished turn.id status)

/-- One Turn of `validate_projected_thread`, with the Turn ids seen before. -/
def tallyTurn [Sha256] (thread : Thread) (state : List TurnId × SnapshotTally) (turn : Turn) :
    Except HarnessError (List TurnId × SnapshotTally) := do
  let (turnIds, tally) := state
  validateStateId "snapshot turn" turn.id
  rejectIf (turn.threadId != thread.id || decide (turn.id ∈ turnIds))
    (.state "State snapshot contains an invalid or duplicate Turn")
  let tally ← tally.represent (.turnStarted turn.id)
  let (tally, closed) ← tallyTurnItems turn.id 0 tally none turn.items
  let tally ← tallyTurnEnd thread turn closed tally
  .ok (turnIds ++ [turn.id], tally)

def tallyLineage (thread : Thread) (tally : SnapshotTally) :
    Except HarnessError SnapshotTally :=
  match thread.lineage with
  | none => .ok tally
  | some lineage => do
    validateThreadLineage lineage
    rejectIf (lineage.parentThreadId == thread.id)
      (.state "State snapshot contains self-referential Thread lineage")
    tally.represent (.threadForked lineage)

def tallyOrigin (thread : Thread) (tally : SnapshotTally) :
    Except HarnessError SnapshotTally :=
  match thread.importOrigin with
  | none => .ok tally
  | some origin => do
    rejectIf thread.lineage.isSome
      (.state "State snapshot cannot contain both fork and import provenance")
    validateThreadImportOrigin origin
    tally.represent (.threadImported origin)

/-- One metadata event: it must be a naming, and gives the Thread its name. -/
def tallyMetadata [Sha256] (state : Option String × SnapshotTally) (event : StateEvent) :
    Except HarnessError (Option String × SnapshotTally) := do
  match event with
  | .threadNamed name => do
    validateStateEvent event
    validateStateEventSchema event stateEventSchemaVersion
    let tally ← state.2.represent event
    .ok (name, tally)
  | _ => .error (.state "State snapshot contains a non-metadata event")

/-- One checkpoint, with the ids seen before. -/
def tallyCheckpoint (threadId : ThreadId) (throughSequence : Nat) (turnIds : List TurnId)
    (state : List CheckpointId × SnapshotTally) (checkpoint : Checkpoint) :
    Except HarnessError (List CheckpointId × SnapshotTally) := do
  rejectIf (checkpoint.threadId != threadId ||
      decide (throughSequence ≤ checkpoint.targetSequence) ||
      decide (checkpoint.id ∈ state.1) ||
      checkpoint.turnId.any fun turnId => decide (turnId ∉ turnIds))
    (.state "State snapshot contains an invalid Checkpoint")
  let tally ← state.2.represent (.checkpointCreated checkpoint)
  .ok (state.1 ++ [checkpoint.id], tally)

/-- `validate_projected_thread`: the recovery charge of the events behind the
snapshot's Thread. -/
def validateProjectedThread [Sha256] (snapshot : StateSnapshot) : Except HarnessError Nat := do
  let thread := snapshot.thread
  let tally ← SnapshotTally.represent ⟨[], 0, 0⟩
    (.threadCreated thread.createdAtMs thread.tenantId)
  let tally ← tallyLineage thread tally
  let tally ← tallyOrigin thread tally
  let (name, tally) ← snapshot.metadataEvents.foldlM tallyMetadata (none, tally)
  rejectIf (name != thread.name)
    (.state "State snapshot Thread name does not match its metadata events")
  let (turnIds, tally) ← thread.turns.foldlM (tallyTurn thread) ([], tally)
  rejectIf (decide (1 < (thread.turns.filter fun turn => turn.status == .running).length))
    (.state "State snapshot contains overlapping running Turns")
  validateSteeringProjection thread
  validateToolCallBatchProjection thread
  validateExecutionBindingProjection thread
  validateConnectorEvidenceProjection thread
  validateAgentLoopExecutionProjection thread
  let (_, tally) ← thread.checkpoints.foldlM
    (tallyCheckpoint thread.id snapshot.throughSequence turnIds) ([], tally)
  rejectIf (tally.events != snapshot.streamVersion)
    (.state "State snapshot projection does not match its stream version")
  .ok tally.recoveryBytes

/-- `validate_snapshot` up to its encoded-size ceiling. -/
def validateSnapshotContent [Sha256] (snapshot : StateSnapshot) : Except HarnessError Unit := do
  rejectIf (snapshot.schemaVersion != stateSnapshotSchemaVersion)
    (.state s!"unsupported State snapshot schema version {snapshot.schemaVersion}")
  rejectIf (snapshot.throughSequence == 0 || snapshot.streamVersion == 0 ||
      decide (maxStateRecoveryEvents < snapshot.streamVersion) ||
      decide (snapshot.throughSequence < snapshot.streamVersion) ||
      snapshot.recoveryBytes == 0 ||
      decide (stateThreadRecoveryByteLimit < snapshot.recoveryBytes))
    (.state "State snapshot has invalid sequence metadata")
  validateStateId "snapshot thread" snapshot.thread.id
  validateStateId "snapshot anchor event" snapshot.anchorEventId
  let recoveryBytes ← validateProjectedThread snapshot
  rejectIf (recoveryBytes != snapshot.recoveryBytes)
    (.state "State snapshot recovery charge does not match its projection")
  rejectIf (snapshot.projectionSha256 !=
      projectionSha256 snapshot.thread snapshot.metadataEvents)
    (.state "State snapshot projection digest mismatch")

/-- `validate_snapshot`. -/
def validateSnapshot [Sha256] (snapshot : StateSnapshot) : Except HarnessError Unit := do
  validateSnapshotContent snapshot
  let _ ← (boundedSerializedSize snapshot.toJson maxStateSnapshotBytes).mapError
    (stateJsonError "State snapshot" maxStateSnapshotBytes)
  .ok ()

end YHarness.State

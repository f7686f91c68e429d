/-
# YHarness.State.Store -- the Event Store

The in-memory Event Store of `src/state/mod.rs`: one global journal, the fences
of each stream, the snapshot and live-wait row of each Thread and the due index.
Its append is the atomic step every engine operation ends in.  The identity
index of the source is the search of the journal for the identity.
-/
import YHarness.State.Snapshot
import YHarness.State.WaitDue
import Mathlib.Data.Finset.Basic

namespace YHarness.State

open YHarness.Lib YHarness.Kernel

set_option autoImplicit false

def maxStateEventPage : Nat := 10000
def maxStateEventPageRecoveryBytes : Nat := 16777216
def snapshotTailPage : Nat := 1000

structure MemoryStore where
  events : List StoredEvent
  streamVersions : ThreadId → Nat
  streamRecoveryBytes : ThreadId → Nat
  streamTenants : ThreadId → Option (Option String)
  snapshots : ThreadId → Option StateSnapshot
  agentLoopWaits : ThreadId → Option AgentLoopWaitProjection
  agentLoopDue : Finset AgentLoopDueIndexKey

def MemoryStore.empty : MemoryStore where
  events := []
  streamVersions := fun _ => 0
  streamRecoveryBytes := fun _ => 0
  streamTenants := fun _ => none
  snapshots := fun _ => none
  agentLoopWaits := fun _ => none
  agentLoopDue := ∅

inductive EventAppendDisposition where
  | applied | duplicate

structure EventAppendResult where
  stored : StoredEvent
  disposition : EventAppendDisposition

/-! ## Append -/

def validateStreamVersion (actual : Nat) (pending : PendingEvent) : Except HarnessError Unit :=
  rejectIf (actual != pending.expectedStreamVersion)
    (.stateConflict pending.threadId pending.expectedStreamVersion actual)

def validateStreamRecoveryBytes (actual : Nat) (pending : PendingEvent) :
    Except HarnessError Unit :=
  rejectIf (actual != pending.expectedStreamRecoveryBytes)
    (.state (s!"stream recovery charge mismatch: expected " ++
      s!"{pending.expectedStreamRecoveryBytes}, found {actual}"))

def isCreation : StateEvent → Bool
  | .threadCreated _ _ => true
  | _ => false

def validateThreadExistence (threadExists : Bool) (pending : PendingEvent) :
    Except HarnessError Unit := do
  rejectIf (isCreation pending.event && threadExists)
    (.state s!"thread {pending.threadId} already exists")
  rejectIf (!isCreation pending.event && !threadExists)
    (.state s!"thread {pending.threadId} does not exist")

def matchingExisting (existing : StoredEvent) (pending : PendingEvent) :
    Except HarnessError StoredEvent := do
  rejectIf (!(existing.threadId == pending.threadId &&
      existing.recordedAtMs == pending.recordedAtMs && existing.event == pending.event))
    (.state s!"event id {pending.eventId} was reused with different content")
  .ok existing

namespace MemoryStore

/-- The stored event with this identity. -/
def eventById (s : MemoryStore) (eventId : EventId) : Option StoredEvent :=
  s.events.find? fun stored => stored.eventId == eventId

/-- Remove a row's key from the due index. -/
def eraseDue (due : Finset AgentLoopDueIndexKey) (row : Option AgentLoopWaitProjection) :
    Finset AgentLoopDueIndexKey :=
  match row.bind AgentLoopWaitProjection.dueIndexKey with
  | none => due
  | some key => due.erase key

def insertDue (due : Finset AgentLoopDueIndexKey) (row : AgentLoopWaitProjection) :
    Finset AgentLoopDueIndexKey :=
  match row.dueIndexKey with
  | none => due
  | some key => insert key due

/-- `apply_memory_wait_projection`. -/
def applyWaitChange (s : MemoryStore) : AgentLoopWaitProjectionChange → MemoryStore
  | .unchanged => s
  | .upsert next => { s with
      agentLoopDue := insertDue (eraseDue s.agentLoopDue (s.agentLoopWaits next.threadId)) next
      agentLoopWaits := Function.update s.agentLoopWaits next.threadId (some next) }
  | .delete previous => { s with
      agentLoopDue := eraseDue s.agentLoopDue (some previous)
      agentLoopWaits := Function.update s.agentLoopWaits previous.threadId none }

/-- The event a pending append stores. -/
def nextStored (s : MemoryStore) (pending : PendingEvent) : StoredEvent where
  schemaVersion := stateEventSchemaVersion
  sequence := s.events.length + 1
  eventId := pending.eventId
  threadId := pending.threadId
  recordedAtMs := pending.recordedAtMs
  event := pending.event

/-- The tenant a creation event gives its stream. -/
def recordTenant (tenants : ThreadId → Option (Option String)) (stored : StoredEvent) :
    ThreadId → Option (Option String) :=
  match stored.event with
  | .threadCreated _ tenantId => Function.update tenants stored.threadId (some tenantId)
  | _ => tenants

/-- Store one event: the fences, the live row and the journal move together. -/
def commitEvent (s : MemoryStore) (stored : StoredEvent) (charge : Nat)
    (change : AgentLoopWaitProjectionChange) : MemoryStore :=
  let s := s.applyWaitChange change
  { s with
    events := s.events ++ [stored]
    streamVersions := Function.update s.streamVersions stored.threadId
      (s.streamVersions stored.threadId + 1)
    streamRecoveryBytes := Function.update s.streamRecoveryBytes stored.threadId
      (s.streamRecoveryBytes stored.threadId + charge)
    streamTenants := recordTenant s.streamTenants stored }

/-- `append_classified`. -/
def appendClassified [Sha256] (s : MemoryStore) (pending : PendingEvent) :
    Except HarnessError (MemoryStore × EventAppendResult) := do
  let charge ← validatePendingEvent pending
  match s.eventById pending.eventId with
  | some existing => do
    let stored ← matchingExisting existing pending
    .ok (s, ⟨stored, .duplicate⟩)
  | none => do
    validateStreamVersion (s.streamVersions pending.threadId) pending
    validateStreamRecoveryBytes (s.streamRecoveryBytes pending.threadId) pending
    validateThreadExistence (decide (0 < s.streamVersions pending.threadId)) pending
    let stored := s.nextStored pending
    let change ← projectionChange stored (s.agentLoopWaits pending.threadId)
    .ok (s.commitEvent stored charge change, ⟨stored, .applied⟩)

end MemoryStore

/-! ## Atomic stream creation -/

def isCheckpointEvent : StateEvent → Bool
  | .checkpointCreated _ => true
  | _ => false

def isProvenance : StateEvent → Bool
  | .threadForked _ | .threadImported _ => true
  | _ => false

/-- The loop of `validate_new_stream`: the ids seen, the charge so far, and the
synthetic events numbered from one. -/
def validateNewEvents [Sha256] (threadId : ThreadId) :
    Nat → List EventId → Nat → List NewStreamEvent → Except HarnessError (Nat × List StoredEvent)
  | _, _, charge, [] => .ok (charge, [])
  | index, eventIds, charge, new :: rest => do
    validateStateId "event" new.eventId
    rejectIf (decide (new.eventId ∈ eventIds))
      (.state "atomic stream contains duplicate Event identities")
    rejectIf (decide (new.schemaVersion < 1) ||
        decide (stateEventSchemaVersion < new.schemaVersion))
      (.state s!"unsupported State event schema {new.schemaVersion}")
    rejectIf (isCheckpointEvent new.event)
      (.state "materialized history cannot copy recovery Checkpoints")
    validateStateEvent new.event
    validateStateEventSchema new.event new.schemaVersion
    let encoded ← encodeStateEvent new.event
    let (total, synthetic) ← validateNewEvents threadId (index + 1) (new.eventId :: eventIds)
      (charge + encoded) rest
    .ok (total, ⟨new.schemaVersion, index + 1, new.eventId, threadId, new.recordedAtMs,
      new.event⟩ :: synthetic)

/-- `validate_new_stream`, with the charge of the stream. -/
def validateNewStream [Sha256] (threadId : ThreadId) (events : List NewStreamEvent) :
    Except HarnessError Nat := do
  validateStateId "thread" threadId
  rejectIf (!(match events with
      | first :: second :: _ => isCreation first.event && isProvenance second.event
      | _ => false))
    (.state "atomic materialized stream must begin with creation then provenance")
  rejectIf (decide (stateThreadEventLimit - stateTerminalEventReserve < events.length))
    (.state "materialized Thread exceeds its 999999-event general boundary")
  let (charge, synthetic) ← validateNewEvents threadId 0 [] 0 events
  rejectIf (decide (stateThreadRecoveryByteLimit - stateTerminalRecoveryByteReserve < charge))
    (.state "materialized Thread exceeds its 66060288-byte general recovery boundary")
  let projected ← projectEvents synthetic
  let thread ← orError (.state "atomic stream has no Thread projection") projected
  rejectIf (thread.id != threadId || thread.lineage.isSome == thread.importOrigin.isSome)
    (.state "atomic materialized stream projection is inconsistent")
  rejectIf (thread.turns.any fun turn => turn.status == .running)
    (.state "atomic materialized stream cannot end with a running Turn")
  .ok charge

/-- Number the events of a new stream after the global journal. -/
def numberNewEvents (threadId : ThreadId) : Nat → List NewStreamEvent → List StoredEvent
  | _, [] => []
  | sequence, new :: rest =>
    ⟨new.schemaVersion, sequence + 1, new.eventId, threadId, new.recordedAtMs, new.event⟩ ::
      numberNewEvents threadId (sequence + 1) rest

/-- `final_stream_tenant`. -/
def finalStreamTenant : List StoredEvent → Except HarnessError (Option String)
  | ⟨_, _, _, _, _, .threadCreated _ tenantId⟩ :: _ => .ok tenantId
  | _ => .error (.state "Thread stream does not begin with creation")

namespace MemoryStore

/-- `create_stream_atomic`. -/
def createStreamAtomic [Sha256] (s : MemoryStore) (threadId : ThreadId)
    (events : List NewStreamEvent) : Except HarnessError (MemoryStore × List StoredEvent) := do
  let charge ← validateNewStream threadId events
  rejectIf (s.streamVersions threadId != 0)
    (.stateConflict threadId 0 (s.streamVersions threadId))
  rejectIf (events.any fun new => (s.eventById new.eventId).isSome)
    (.state "atomic stream contains an Event identity already used by another stream")
  let stored := numberNewEvents threadId s.events.length events
  let tenantId ← finalStreamTenant stored
  rejectIf (s.agentLoopWaits threadId).isSome
    (.state "atomic stream target has an orphaned live-wait projection")
  .ok ({ s with
      events := s.events ++ stored
      streamVersions := Function.update s.streamVersions threadId stored.length
      streamRecoveryBytes := Function.update s.streamRecoveryBytes threadId charge
      streamTenants := Function.update s.streamTenants threadId (some tenantId) }, stored)

/-! ## Reads -/

/-- The journal of one Thread. -/
def journal (s : MemoryStore) (threadId : ThreadId) : List StoredEvent :=
  s.events.filter fun stored => stored.threadId == threadId

end MemoryStore

def validateEventPageRequest (limit maximum : Nat) : Except HarnessError Unit := do
  rejectIf (decide (limit < 1) || decide (maxStateEventPage < limit))
    (.state "event page limit must be 1-10000")
  rejectIf (maximum == 0 || decide (maxStateEventPageRecoveryBytes < maximum))
    (.state "event page recovery budget must be 1-16777216 bytes")

/-- Take events while they fit the byte budget. -/
def fillPage (maximum : Nat) :
    Nat → List StoredEvent → List StoredEvent → Except HarnessError (List StoredEvent)
  | _, page, [] => .ok page
  | charged, page, stored :: rest => do
    let charge ← encodeStateEvent stored.event
    if maximum < charged + charge then
      if page.isEmpty then
        .error (.state "next State event exceeds the requested page byte budget")
      else .ok page
    else fillPage maximum (charged + charge) (page ++ [stored]) rest

namespace MemoryStore

/-- `events_page`. -/
def eventsPage (s : MemoryStore) (threadId : ThreadId) (afterSequence limit maximum : Nat) :
    Except HarnessError (List StoredEvent) := do
  validateEventPageRequest limit maximum
  fillPage maximum 0 [] (((s.journal threadId).filter fun stored =>
    decide (afterSequence < stored.sequence)).take limit)

/-- `thread_accessible`. -/
def threadAccessible (s : MemoryStore) (threadId : ThreadId) (tenantId : Option String) : Bool :=
  s.streamTenants threadId == some tenantId

/-- `save_snapshot`: an older snapshot never replaces a newer one. -/
def saveSnapshot [Sha256] (s : MemoryStore) (snapshot : StateSnapshot) :
    Except HarnessError MemoryStore := do
  validateSnapshot snapshot
  let replace := (s.snapshots snapshot.thread.id).all fun existing =>
    decide (existing.streamVersion ≤ snapshot.streamVersion)
  .ok (if replace then
      { s with snapshots := Function.update s.snapshots snapshot.thread.id (some snapshot) }
    else s)

/-- The due wait a scan at `atMs` returns for one Thread: the row behind a due
key of the scanned tenant, with the fences of its stream. -/
def dueWaitOf (s : MemoryStore) (tenantId : Option String) (atMs : UInt64)
    (threadId : ThreadId) : Except HarnessError (Option AgentLoopDueWait) :=
  match s.agentLoopWaits threadId with
  | none => .ok none
  | some row =>
    match row.dueIndexKey with
    | none => .ok none
    | some key =>
      if key ∈ s.agentLoopDue ∧ key.tenantId = tenantId ∧ key.dueAtMs ≤ atMs then do
        let due ← row.dueWait (s.streamVersions threadId) (s.streamRecoveryBytes threadId)
        .ok (some due)
      else .ok none

end MemoryStore

end YHarness.State

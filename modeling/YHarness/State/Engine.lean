/-
# YHarness.State.Engine -- the State engine over an Event Store

`StateEngine` of `src/state/mod.rs` as tasks over atomic calls: the calls of the
Event Store, the cached stream heads of each engine, the clock and the identity
generator.  A task holds no lock between two calls, so what it read may be old
by the time it appends.
-/
import YHarness.Lib.Interleave
import YHarness.State.Store
import YHarness.State.Scan

namespace YHarness.State

open YHarness.Lib YHarness.Kernel

set_option autoImplicit false

structure StreamHead where
  streamVersion : Nat
  recoveryBytes : Nat
  lastSequence : Nat
  turns : Finset TurnId
  runningTurn : Option TurnId

structure CheckedEvents where
  events : List StoredEvent
  recoveryBytes : Nat

/-- The names of the engines over one store. -/
abbrev EngineId := Nat

/-! ## Cached heads -/

/-- `cache_head`: a newer head is kept. -/
def cacheHead (current : Option StreamHead) (head : StreamHead) : Option StreamHead :=
  if current.all fun cached => decide (cached.streamVersion ≤ head.streamVersion) then some head
  else current

/-- The Turn running after an event. -/
def runningAfter (running : Option TurnId) : StateEvent → Option TurnId
  | .turnStarted turnId => some turnId
  | .turnFinished turnId _ | .turnCompleted turnId _ | .waitClosed turnId _ _ _
  | .denyWait turnId _ _ => if running = some turnId then none else running
  | _ => running

/-- The Turns known after an event. -/
def turnsAfter (turns : Finset TurnId) : StateEvent → Finset TurnId
  | .turnStarted turnId => insert turnId turns
  | _ => turns

/-- The head an append advances: the cached one at exactly the appended
coordinates, or none for a creation. -/
def advanceBase (current : Option StreamHead) (expectedVersion expectedRecoveryBytes : Nat)
    (event : StateEvent) : Option StreamHead :=
  match current with
  | some head =>
    if head.streamVersion = expectedVersion ∧ head.recoveryBytes = expectedRecoveryBytes then
      some head
    else none
  | none =>
    if expectedVersion = 0 ∧ expectedRecoveryBytes = 0 ∧ isCreation event = true then
      some ⟨0, 0, 0, ∅, none⟩
    else none

/-- `advance_head`. -/
def advanceHead (current : Option StreamHead) (expectedVersion expectedRecoveryBytes : Nat)
    (eventRecoveryBytes : Nat) (stored : StoredEvent) : Option StreamHead :=
  match advanceBase current expectedVersion expectedRecoveryBytes stored.event with
  | none => current
  | some base => some
      { streamVersion := expectedVersion + 1
        recoveryBytes := expectedRecoveryBytes + eventRecoveryBytes
        lastSequence := stored.sequence
        turns := turnsAfter base.turns stored.event
        runningTurn := runningAfter base.runningTurn stored.event }

/-- `invalidate_head`. -/
def invalidateHead (current : Option StreamHead) (expected : Nat) : Option StreamHead :=
  if current.any fun head => decide (head.streamVersion ≤ expected) then none else current

/-! ## Calls -/

/-- The atomic calls of a task.  `basis` records the cached head whose
coordinates an append uses; the store does not see it. -/
inductive EngineCall where
  | threadAccessible (threadId : ThreadId) (tenantId : Option String)
  | eventsPage (threadId : ThreadId) (afterSequence limit maximum : Nat)
  | eventById (eventId : EventId)
  | append (pending : PendingEvent) (basis : Option StreamHead)
  | createStreamAtomic (threadId : ThreadId) (events : List NewStreamEvent)
  | loadSnapshot (threadId : ThreadId)
  | saveSnapshot (snapshot : StateSnapshot)
  | scanDue (tenantId : Option String) (atMs : UInt64) (threadId : ThreadId)
  | getHead (engine : EngineId) (threadId : ThreadId)
  | cacheHead (engine : EngineId) (threadId : ThreadId) (head : StreamHead)
  | advanceHead (engine : EngineId) (expectedVersion expectedRecoveryBytes charge : Nat)
      (stored : StoredEvent)
  | invalidateHead (engine : EngineId) (threadId : ThreadId) (expected : Nat)
  | removeHead (engine : EngineId) (threadId : ThreadId)
  | now
  | generate (kind : String)

abbrev EngineReply : EngineCall → Type
  | .threadAccessible _ _ => Except HarnessError Bool
  | .eventsPage _ _ _ _ => Except HarnessError (List StoredEvent)
  | .eventById _ => Except HarnessError (Option StoredEvent)
  | .append _ _ => Except HarnessError EventAppendResult
  | .createStreamAtomic _ _ => Except HarnessError (List StoredEvent)
  | .loadSnapshot _ => Except HarnessError (Option StateSnapshot)
  | .saveSnapshot _ => Except HarnessError Unit
  | .scanDue _ _ _ => Except HarnessError (Option AgentLoopDueWait)
  | .getHead _ _ => Option StreamHead
  | .cacheHead _ _ _ | .advanceHead _ _ _ _ _ | .invalidateHead _ _ _ | .removeHead _ _ => Unit
  | .now => UInt64
  | .generate _ => String

abbrev EngineM (α : Type) : Type := TryTask EngineCall EngineReply HarnessError α

/-- One call of the engine. -/
def ask (c : EngineCall) : EngineM (EngineReply c) := TryTask.call c

/-- A check that makes no call. -/
def check {α : Type} (outcome : Except HarnessError α) : EngineM α := TryTask.check outcome

@[simp] theorem check_ok_bind {α β : Type} (a : α) (f : α → EngineM β) :
    (check (.ok a) >>= f) = f a := rfl

@[simp] theorem check_error_bind {α β : Type} (e : HarnessError) (f : α → EngineM β) :
    (check (.error e) >>= f) = check (.error e) := rfl

/-! ## Reading a Thread -/

/-- The loop of `validate_stored_events`. -/
def validateStoredFrom [Sha256] (threadId : ThreadId) :
    Nat → List EventId → List StoredEvent → Except HarnessError Nat
  | _, _, [] => .ok 0
  | previous, eventIds, stored :: rest => do
    let charge ← validateStoredEvent stored
    rejectIf (stored.threadId != threadId)
      (.state "Event Store returned an event from another thread")
    rejectIf (decide (stored.sequence ≤ previous))
      (.state "Event Store returned non-increasing event sequences")
    rejectIf (decide (stored.eventId ∈ eventIds))
      (.state "Event Store returned duplicate event identities")
    let later ← validateStoredFrom threadId stored.sequence (stored.eventId :: eventIds) rest
    .ok (charge + later)

/-- `validate_stored_events` of a page: at most `limit` events of at most
`maximum` recovery bytes, all after `afterSequence`. -/
def validateStoredEvents [Sha256] (threadId : ThreadId) (events : List StoredEvent)
    (afterSequence limit maximum : Nat) : Except HarnessError Nat := do
  rejectIf (decide (limit < events.length))
    (.state "Event Store returned more events than requested")
  let charge ← validateStoredFrom threadId afterSequence [] events
  rejectIf (decide (maximum < charge))
    (.state "Event Store returned more recovery bytes than requested")
  .ok charge

/-- `remember_event_ids`. -/
def rememberEventIds (known page : List StoredEvent) : Except HarnessError Unit :=
  rejectIf (page.any fun e => decide (e.eventId ∈ known.map (·.eventId)))
    (.state "Event Store returned a duplicate event identity across pages")

/-- What a paged read may collect, and its errors beyond that. -/
structure PageBounds where
  maximum : Nat
  overBytes : String
  overEvents : String

variable [Sha256]

/-- The paging loop of `checked_events` and `snapshot_tail`.  Every page but the
last adds an event, so the fuel is the number of events that may be read. -/
def pagedEvents (threadId : ThreadId) (bounds : PageBounds) :
    Nat → Nat → CheckedEvents → EngineM CheckedEvents
  | 0, _, _ => check (.error (.state bounds.overEvents))
  | fuel + 1, afterSequence, read => do
    let page ← ask (.eventsPage threadId afterSequence snapshotTailPage
      maxStateEventPageRecoveryBytes)
    let page ← check page
    let charge ← check (validateStoredEvents threadId page afterSequence snapshotTailPage
      maxStateEventPageRecoveryBytes)
    match page.getLast? with
    | none => check (.ok read)
    | some last => do
      let recoveryBytes := read.recoveryBytes + charge
      check (rejectIf (decide (bounds.maximum < recoveryBytes)) (.state bounds.overBytes))
      check (rememberEventIds read.events page)
      let events := read.events ++ page
      check (rejectIf (decide (maxStateRecoveryEvents < events.length))
        (.state bounds.overEvents))
      pagedEvents threadId bounds fuel last.sequence ⟨events, recoveryBytes⟩

def pageFuel : Nat := maxStateRecoveryEvents + 2

/-- `checked_events`. -/
def checkedEvents (threadId : ThreadId) : EngineM CheckedEvents := do
  check (validateStateId "thread" threadId)
  pagedEvents threadId ⟨stateThreadRecoveryByteLimit,
    "Thread exceeds its 67108864-byte recovery boundary",
    "Thread exceeds 1000000 recoverable events"⟩ pageFuel 0 ⟨[], 0⟩

/-- `snapshot_tail`. -/
def snapshotTail (threadId : ThreadId) (throughSequence maximum : Nat) : EngineM CheckedEvents :=
  pagedEvents threadId ⟨maximum, "snapshot tail exceeds the Thread recovery-byte boundary",
    "snapshot tail exceeds 1000000 events"⟩ pageFuel throughSequence ⟨[], 0⟩

/-- The sequence of the last event read. -/
def lastSequenceOr (default : Nat) (events : List StoredEvent) : Nat :=
  (events.getLast?.map (·.sequence)).getD default

/-! ## The world the tasks share -/

/-- The store, the heads every engine cached, the identities handed out so far
and the due waits every scan returned so far. -/
structure World where
  store : MemoryStore
  heads : EngineId → ThreadId → Option StreamHead
  usedIds : List String
  scanned : List AgentLoopDueWait

/-- The identities a stored event brings into the world. -/
def introducedIds (stored : StoredEvent) : List String :=
  stored.eventId :: stored.threadId ::
    match stored.event with
    | .turnStarted turnId => [turnId]
    | .checkpointCreated checkpoint => [checkpoint.id]
    | event => (eventItems event).map (·.id)

/-- An identity nobody has used or been given. -/
def World.Fresh (w : World) (id : String) : Prop :=
  id ∉ w.usedIds ∧ ∀ e ∈ w.store.events, id ∉ introducedIds e

def World.setHead (w : World) (engine : EngineId) (threadId : ThreadId)
    (head : Option StreamHead) : World :=
  { w with
    heads := Function.update w.heads engine (Function.update (w.heads engine) threadId head) }

/-- What a write of the store does and returns. -/
def Writes {α : Type} (w : World) (outcome : Except HarnessError (MemoryStore × α))
    (reply : Except HarnessError α) (w' : World) : Prop :=
  match outcome with
  | .ok (store, a) => reply = .ok a ∧ w' = { w with store }
  | .error e => reply = .error e ∧ w' = w

/-- A call that is performed.  The clock may say anything; `generate` returns a
process-unique identity (`next_id`). -/
def Performs (w : World) : (c : EngineCall) → EngineReply c → World → Prop
  | .threadAccessible threadId tenantId, reply, w' =>
    reply = .ok (w.store.threadAccessible threadId tenantId) ∧ w' = w
  | .eventsPage threadId afterSequence limit maximum, reply, w' =>
    reply = w.store.eventsPage threadId afterSequence limit maximum ∧ w' = w
  | .eventById eventId, reply, w' => reply = .ok (w.store.eventById eventId) ∧ w' = w
  | .append pending _, reply, w' => Writes w (w.store.appendClassified pending) reply w'
  | .createStreamAtomic threadId events, reply, w' =>
    Writes w (w.store.createStreamAtomic threadId events) reply w'
  | .loadSnapshot threadId, reply, w' => reply = .ok (w.store.snapshots threadId) ∧ w' = w
  | .saveSnapshot snapshot, reply, w' =>
    Writes w ((w.store.saveSnapshot snapshot).map fun store => (store, ())) reply w'
  | .scanDue tenantId atMs threadId, reply, w' =>
    reply = w.store.dueWaitOf tenantId atMs threadId ∧
      w' = { w with scanned := (reply.toOption.join).toList ++ w.scanned }
  | .getHead engine threadId, reply, w' => reply = w.heads engine threadId ∧ w' = w
  | .cacheHead engine threadId head, _, w' =>
    w' = w.setHead engine threadId (cacheHead (w.heads engine threadId) head)
  | .advanceHead engine expectedVersion expectedRecoveryBytes charge stored, _, w' =>
    w' = w.setHead engine stored.threadId (advanceHead (w.heads engine stored.threadId)
      expectedVersion expectedRecoveryBytes charge stored)
  | .invalidateHead engine threadId expected, _, w' =>
    w' = w.setHead engine threadId (invalidateHead (w.heads engine threadId) expected)
  | .removeHead engine threadId, _, w' => w' = w.setHead engine threadId none
  | .now, _, w' => w' = w
  | .generate kind, id, w' => w.Fresh id ∧ validateStateId kind id = .ok () ∧
      w' = { w with usedIds := id :: w.usedIds }

/-- A store call that is reported as failed.  A write may have taken place
nevertheless. -/
def Fails (w : World) : (c : EngineCall) → EngineReply c → World → Prop
  | .threadAccessible _ _, reply, w' => (∃ e, reply = .error e) ∧ w' = w
  | .eventsPage _ _ _ _, reply, w' => (∃ e, reply = .error e) ∧ w' = w
  | .eventById _, reply, w' => (∃ e, reply = .error e) ∧ w' = w
  | .append pending basis, reply, w' => (∃ e, reply = .error e) ∧
      (w' = w ∨ ∃ done, Performs w (.append pending basis) (.ok done) w')
  | .createStreamAtomic threadId events, reply, w' => (∃ e, reply = .error e) ∧
      (w' = w ∨ ∃ done, Performs w (.createStreamAtomic threadId events) (.ok done) w')
  | .loadSnapshot _, reply, w' => (∃ e, reply = .error e) ∧ w' = w
  | .saveSnapshot snapshot, reply, w' => (∃ e, reply = .error e) ∧
      (w' = w ∨ ∃ done, Performs w (.saveSnapshot snapshot) (.ok done) w')
  | .scanDue _ _ _, reply, w' => (∃ e, reply = .error e) ∧ w' = w
  | _, _, _ => False

/-- A call, where the store may fail only if there are `faults`. -/
def Exec (faults : Prop) (w : World) (c : EngineCall) (reply : EngineReply c) (w' : World) :
    Prop :=
  Performs w c reply w' ∨ faults ∧ Fails w c reply w'

end YHarness.State

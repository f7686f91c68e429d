/-
# YHarness.State.Sqlite -- the SQLite Event Store refines the in-memory one

The SQLite Event Store of `src/state/mod.rs` at the level of its tables: what
one transaction reads, checks and writes.  SQLite itself is outside the
repository; a table with a primary key is a partial function, a statement whose
`WHERE` clause names a row affects it exactly when the row is there, and a
transaction that fails writes nothing.  The due index is an index of the wait
table, so it holds the due keys of its rows by definition.  An event stands for the
JSON text of its row: what the wait table is made of holds no fraction, which is all
that a reader of the text may give back with other digits.

Every transaction that commits is an accepted write of the in-memory store.
-/
import YHarness.State.LiveWait

namespace YHarness.State

open YHarness.Lib YHarness.Kernel

set_option autoImplicit false

structure SqliteStore where
  events : List StoredEvent
  streams : ThreadId → Option (Nat × Option String)
  streamRecovery : ThreadId → Option Nat
  agentLoopWaitProjection : ThreadId → Option AgentLoopWaitProjection

def SqliteStore.empty : SqliteStore :=
  ⟨[], fun _ => none, fun _ => none, fun _ => none⟩

/-- `sqlite_state_u64` and the `i64::try_from` of the other columns. -/
def sqliteInteger (kind : String) (value : Nat) : Except HarnessError Unit :=
  rejectIf (decide (2 ^ 63 ≤ value)) (.state (kind ++ " exceeds SQLite INTEGER"))

/-- The coordinates an `UPDATE` must not change. -/
def sameCoordinates (previous next : AgentLoopWaitProjection) : Bool :=
  previous.tenantId == next.tenantId && previous.threadId == next.threadId &&
    previous.turnId == next.turnId && previous.waitId == next.waitId &&
    previous.approvalId == next.approvalId && previous.envelopeSha256 == next.envelopeSha256 &&
    previous.waitStartedEventId == next.waitStartedEventId

/-- The `WHERE` clause of the row updates: the row still has the coordinates,
revision, phase and transition that were read. -/
def rowUnmoved (row previous : AgentLoopWaitProjection) : Bool :=
  row.turnId == previous.turnId && row.waitId == previous.waitId &&
    row.revision == previous.revision && row.phase == previous.phase &&
    row.currentTransitionEventId == previous.currentTransitionEventId

namespace SqliteStore

/-- Write the row of an `Upsert`. -/
def writeRow (table : ThreadId → Option AgentLoopWaitProjection)
    (current : Option AgentLoopWaitProjection) (next : AgentLoopWaitProjection) :
    Except HarnessError (ThreadId → Option AgentLoopWaitProjection) := do
  checkSome (fun due : UInt64 => sqliteInteger "Agent Loop due time" due.toNat) next.dueAtMs
  sqliteInteger "Agent Loop wait revision" next.revision.toNat
  match current with
  | some previous => do
    rejectIf (!sameCoordinates previous next)
      (.state "Agent Loop wait projection attempted to change immutable coordinates")
    sqliteInteger "Agent Loop wait revision" previous.revision.toNat
    let row ← orError
      (.state "Agent Loop wait projection CAS did not affect exactly one row")
      ((table next.threadId).filter (rowUnmoved · previous))
    .ok (Function.update table next.threadId (some { row with
      revision := next.revision, phase := next.phase, dueAtMs := next.dueAtMs,
      currentTransitionEventId := next.currentTransitionEventId,
      resumeCommandId := next.resumeCommandId }))
  | none => do
    rejectIf (table next.threadId).isSome (.state "UNIQUE constraint failed")
    .ok (Function.update table next.threadId (some next))

/-- `apply_sqlite_wait_projection`. -/
def applyWaitProjection (table : ThreadId → Option AgentLoopWaitProjection)
    (stored : StoredEvent) :
    Except HarnessError (ThreadId → Option AgentLoopWaitProjection) := do
  let current := table stored.threadId
  checkSome AgentLoopWaitProjection.validate current
  let change ← projectionChange stored current
  match change with
  | .unchanged => .ok table
  | .upsert next => writeRow table current next
  | .delete previous => do
    sqliteInteger "Agent Loop wait revision" previous.revision.toNat
    let _ ← orError
      (.state "Agent Loop wait projection delete CAS did not affect exactly one row")
      ((table previous.threadId).filter (rowUnmoved · previous))
    .ok (Function.update table previous.threadId none)

def streamVersion (q : SqliteStore) (threadId : ThreadId) : Nat :=
  ((q.streams threadId).map (·.1)).getD 0

/-- The recovery row a stream must have, and only a stream. -/
def recoveryBytes (q : SqliteStore) (threadId : ThreadId) : Except HarnessError Nat :=
  if q.streamVersion threadId = 0 then do
    rejectIf (q.streamRecovery threadId).isSome (.state "orphaned stream recovery metadata")
    .ok 0
  else orError (.state "missing stream recovery metadata") (q.streamRecovery threadId)

def nextStored (q : SqliteStore) (pending : PendingEvent) : StoredEvent where
  schemaVersion := stateEventSchemaVersion
  sequence := q.events.length + 1
  eventId := pending.eventId
  threadId := pending.threadId
  recordedAtMs := pending.recordedAtMs
  event := pending.event

/-- The `streams` row after an append: a new row takes its tenant, an existing
one only a new version. -/
def nextStream (row : Option (Nat × Option String)) (version : Nat) (event : StateEvent) :
    Nat × Option String :=
  match row with
  | some (_, tenantId) => (version, tenantId)
  | none => (version, match event with
      | .threadCreated _ tenantId => tenantId
      | _ => none)

/-- `append_with_disposition`. -/
def appendClassified [Sha256] (q : SqliteStore) (pending : PendingEvent) :
    Except HarnessError (SqliteStore × EventAppendResult) := do
  let charge ← validatePendingEvent pending
  sqliteInteger "timestamp" pending.recordedAtMs.toNat
  match q.events.find? fun stored => stored.eventId == pending.eventId with
  | some existing => do
    let stored ← matchingExisting existing pending
    .ok (q, ⟨stored, .duplicate⟩)
  | none => do
    validateStreamVersion (q.streamVersion pending.threadId) pending
    let bytes ← q.recoveryBytes pending.threadId
    validateStreamRecoveryBytes bytes pending
    validateThreadExistence (decide (0 < q.streamVersion pending.threadId)) pending
    sqliteInteger "stream version" (q.streamVersion pending.threadId + 1)
    sqliteInteger "stream recovery charge" (bytes + charge)
    let table ← applyWaitProjection q.agentLoopWaitProjection (q.nextStored pending)
    .ok ({
      events := q.events ++ [q.nextStored pending]
      streams := Function.update q.streams pending.threadId (some (nextStream
        (q.streams pending.threadId) (q.streamVersion pending.threadId + 1) pending.event))
      streamRecovery := Function.update q.streamRecovery pending.threadId (some (bytes + charge))
      agentLoopWaitProjection := table }, ⟨q.nextStored pending, .applied⟩)

/-- `create_stream_atomic`. -/
def createStreamAtomic [Sha256] (q : SqliteStore) (threadId : ThreadId)
    (events : List NewStreamEvent) : Except HarnessError (SqliteStore × List StoredEvent) := do
  let charge ← validateNewStream threadId events
  let stored := numberNewEvents threadId q.events.length events
  let tenantId ← finalStreamTenant stored
  checkAll (fun new : NewStreamEvent => sqliteInteger "timestamp" new.recordedAtMs.toNat) events
  rejectIf (q.streams threadId).isSome (.stateConflict threadId 0 (q.streamVersion threadId))
  sqliteInteger "stream version" events.length
  sqliteInteger "stream recovery charge" charge
  rejectIf (events.any fun new =>
      (q.events.find? fun stored => stored.eventId == new.eventId).isSome)
    (.state "UNIQUE constraint failed: events.event_id")
  rejectIf (q.streamRecovery threadId).isSome (.state "UNIQUE constraint failed")
  .ok ({ q with
    events := q.events ++ stored
    streams := Function.update q.streams threadId (some (events.length, tenantId))
    streamRecovery := Function.update q.streamRecovery threadId (some charge) }, stored)

end SqliteStore

/-! ## Refinement -/

/-- The tables hold what the in-memory store holds. -/
structure Refines (q : SqliteStore) (s : MemoryStore) : Prop where
  events : q.events = s.events
  versions : ∀ threadId, q.streamVersion threadId = s.streamVersions threadId
  recovery : ∀ threadId, q.streamRecovery threadId =
    if s.streamVersions threadId = 0 then none else some (s.streamRecoveryBytes threadId)
  waits : q.agentLoopWaitProjection = s.agentLoopWaits

theorem empty_refines : Refines .empty .empty :=
  ⟨rfl, fun _ => rfl, fun _ => rfl, rfl⟩

theorem rowUnmoved_self (row : AgentLoopWaitProjection) : rowUnmoved row row = true := by
  simp [rowUnmoved]

/-- An update that keeps the coordinates writes exactly the next row. -/
theorem updated_row {previous next : AgentLoopWaitProjection}
    (same : sameCoordinates previous next = true) :
    { previous with
      revision := next.revision, phase := next.phase, dueAtMs := next.dueAtMs,
      currentTransitionEventId := next.currentTransitionEventId,
      resumeCommandId := next.resumeCommandId } = next := by
  simp only [sameCoordinates, Bool.and_eq_true, beq_iff_eq] at same
  obtain ⟨⟨⟨⟨⟨⟨tenantId, threadId⟩, turnId⟩, waitId⟩, approvalId⟩, envelope⟩, started⟩ := same
  obtain ⟨⟩ := next
  simp only at tenantId threadId turnId waitId approvalId envelope started
  simp [tenantId, threadId, turnId, waitId, approvalId, envelope, started]

section Refinement

variable [Sha256]

/-- A committed row change is the change of the in-memory store. -/
theorem applyWaitProjection_eq_ok {s : MemoryStore} {e : StoredEvent}
    {table : ThreadId → Option AgentLoopWaitProjection}
    (valid : validateStateEvent e.event = .ok ())
    (committed : SqliteStore.applyWaitProjection s.agentLoopWaits e = .ok table) :
    ∃ change, projectionChange e (s.agentLoopWaits e.threadId) = .ok change ∧
      table = (s.applyWaitChange change).agentLoopWaits := by
  simp only [SqliteStore.applyWaitProjection, bind_eq_ok (α := AgentLoopWaitProjectionChange),
    seq_eq_ok] at committed
  obtain ⟨_, change, changes, committed⟩ := committed
  refine ⟨change, changes, ?_⟩
  have requested := (projectionChange_eq_ok.1 changes).1
  rw [applyWaitChange_agentLoopWaits valid requested]
  obtain ⟨upserts, deletes⟩ := requestedChange_thread valid requested
  cases change with
  | unchanged =>
    cases committed
    simp [changedRow]
  | upsert next =>
    have owner := upserts next rfl
    cases current : s.agentLoopWaits e.threadId with
    | none =>
      simp only [SqliteStore.writeRow, current, seq_eq_ok, ok_eq_ok] at committed
      obtain ⟨_, _, _, rfl⟩ := committed
      rw [owner]
      rfl
    | some previous =>
      simp only [SqliteStore.writeRow, current, owner, bind_eq_ok
        (α := AgentLoopWaitProjection), seq_eq_ok, rejectIf_eq_ok, Bool.not_eq_false',
        orError_eq_ok, Option.filter_some, rowUnmoved_self, if_true, Option.some.injEq,
        exists_eq_left', ok_eq_ok] at committed
      obtain ⟨_, _, same, _, rfl⟩ := committed
      rw [updated_row same]
      rfl
  | delete previous =>
    simp only [bind_eq_ok (α := AgentLoopWaitProjection), seq_eq_ok, ok_eq_ok] at committed
    obtain ⟨_, _, _, rfl⟩ := committed
    rw [(deletes previous rfl).1]
    rfl

/-- **Append.**  A committed append of the tables is the append of the store
they refine. -/
theorem Refines.append {q q' : SqliteStore} {s : MemoryStore} {pending : PendingEvent}
    {result : EventAppendResult} (refines : Refines q s) (wf : StoreWF s)
    (appended : q.appendClassified pending = .ok (q', result)) :
    ∃ s', s.appendClassified pending = .ok (s', result) ∧ Refines q' s' := by
  obtain ⟨events, versions, recovery, waits⟩ := refines
  have sameStored : q.nextStored pending = s.nextStored pending := by
    simp [SqliteStore.nextStored, MemoryStore.nextStored, events]
  simp only [SqliteStore.appendClassified, bind_eq_ok (α := Nat), seq_eq_ok] at appended
  obtain ⟨charge, pendingValid, _, appended⟩ := appended
  obtain rfl := validatePendingEvent_charge pendingValid
  split at appended
  · rename_i existing found
    simp only [bind_eq_ok, matchingExisting_eq_ok, Except.ok.injEq, Prod.mk.injEq] at appended
    obtain ⟨_, ⟨sameThread, sameTime, sameEvent, rfl⟩, rfl, rfl⟩ := appended
    refine ⟨s, appendClassified_eq_ok.2 (.inl ⟨rfl, rfl, pendingValid, ?_, sameThread, sameTime,
      sameEvent⟩), ⟨events, versions, recovery, waits⟩⟩
    rw [MemoryStore.eventById, ← events]
    exact found
  · rename_i absent
    simp only [bind_eq_ok (α := Nat), bind_eq_ok (α := ThreadId → Option AgentLoopWaitProjection),
      seq_eq_ok, validateStreamVersion, validateStreamRecoveryBytes, rejectIf_eq_ok,
      bne_eq_false_iff_eq, validateThreadExistence_eq_ok, Except.ok.injEq,
      Prod.mk.injEq, versions, waits, sameStored] at appended
    obtain ⟨version, bytes, readBytes, expected, existence, _, _, table, moved, rfl, rfl⟩ := appended
    have valid := (validatePendingEvent_eq_ok.1 pendingValid).2.2.2.2.1
    obtain ⟨change, changes, rfl⟩ := applyWaitProjection_eq_ok valid moved
    have sameBytes : bytes = s.streamRecoveryBytes pending.threadId := by
      unfold SqliteStore.recoveryBytes at readBytes
      rw [versions, recovery] at readBytes
      split at readBytes
      · rename_i unused
        have empty : s.journal pending.threadId = [] :=
          List.length_eq_zero_iff.1 (by rw [← wf.versions]; exact unused)
        simp only [seq_eq_ok, ok_eq_ok] at readBytes
        rw [wf.charges, empty, readBytes.2]
        rfl
      · rename_i used
        simp only [orError_eq_ok, Option.some.injEq] at readBytes
        exact readBytes.symm
    subst sameBytes
    rw [not_decide_pos] at existence
    refine ⟨_, appendClassified_eq_ok.2 (.inr ⟨rfl, rfl, pendingValid, ?_, version, expected,
      existence, change, changes, rfl⟩), ?_, ?_, ?_, ?_⟩
    · rw [MemoryStore.eventById, ← events]
      exact absent
    · simp [events]
    · intro threadId
      by_cases same : threadId = pending.threadId
      · subst same
        rcases q.streams pending.threadId with _ | ⟨_, _⟩ <;>
          simp [SqliteStore.streamVersion, SqliteStore.nextStream, MemoryStore.commitEvent,
            MemoryStore.nextStored]
      · simpa [SqliteStore.streamVersion, MemoryStore.commitEvent, MemoryStore.nextStored, same]
          using versions threadId
    · intro threadId
      by_cases same : threadId = pending.threadId
      · subst same
        simp [MemoryStore.commitEvent, MemoryStore.nextStored]
      · simpa [MemoryStore.commitEvent, MemoryStore.nextStored, same] using recovery threadId
    · rfl

/-- **Atomic creation.**  A committed creation is the creation of the store the
tables refine. -/
theorem Refines.create {q q' : SqliteStore} {s : MemoryStore} {threadId : ThreadId}
    {events : List NewStreamEvent} {stored : List StoredEvent} (refines : Refines q s)
    (wf : StoreWF s) (live : LiveWaits s)
    (created : q.createStreamAtomic threadId events = .ok (q', stored)) :
    ∃ s', s.createStreamAtomic threadId events = .ok (s', stored) ∧ Refines q' s' := by
  obtain ⟨sameEvents, versions, recovery, waits⟩ := refines
  simp only [SqliteStore.createStreamAtomic, bind_eq_ok (α := Nat),
    bind_eq_ok (α := Option String), seq_eq_ok, rejectIf_eq_ok, sameEvents, Except.ok.injEq,
    Prod.mk.injEq] at created
  obtain ⟨charge, streamValid, tenantId, tenant, _, unused, _, _, fresh, _, rfl, rfl⟩ := created
  obtain rfl := (validateNewStream_eq_ok.1 streamValid).1
  have version : s.streamVersions threadId = 0 := by
    rw [← versions, SqliteStore.streamVersion]
    simp only [Option.isSome_eq_false_iff, Option.isNone_iff_eq_none] at unused
    simp [unused]
  have empty : s.journal threadId = [] :=
    List.length_eq_zero_iff.1 (by rw [← wf.versions]; exact version)
  have idle : s.agentLoopWaits threadId = none := by
    have agrees := live.agrees threadId none (by rw [empty]; exact replaysTo_nil.2 rfl)
    cases row : s.agentLoopWaits threadId with
    | none => rfl
    | some _ => rw [row] at agrees; obtain ⟨_, _, _, absent, _⟩ := agrees; cases absent
  have some_event : events.length ≠ 0 := by
    obtain ⟨_, _, stream⟩ := validateNewStream_eq_ok.1 streamValid
    obtain ⟨_, _, _, rfl, _⟩ := stream.begins
    simp
  have accepted : s.createStreamAtomic threadId events = .ok
      ({ s with
        events := s.events ++ numberNewEvents threadId s.events.length events
        streamVersions := Function.update s.streamVersions threadId
          (numberNewEvents threadId s.events.length events).length
        streamRecoveryBytes := Function.update s.streamRecoveryBytes threadId (newCharge events)
        streamTenants := Function.update s.streamTenants threadId (some tenantId) },
      numberNewEvents threadId s.events.length events) := by
    simp only [MemoryStore.createStreamAtomic, streamValid, ok_bind, version, bne_self_eq_false,
      rejectIf_false, MemoryStore.eventById, fresh, tenant, idle, Option.isSome_none]
  refine ⟨_, accepted, rfl, ?_, ?_, waits⟩
  · intro t
    by_cases same : t = threadId
    · subst same
      simp [SqliteStore.streamVersion, numberNewEvents_length]
    · simpa [SqliteStore.streamVersion, same] using versions t
  · intro t
    by_cases same : t = threadId
    · subst same
      simp [numberNewEvents_length, some_event]
    · simpa [same] using recovery t

/-- The tables some sequence of committed transactions leads to. -/
inductive SqliteReachable : SqliteStore → Prop
  | empty : SqliteReachable .empty
  | append {q q' : SqliteStore} {pending : PendingEvent} {result : EventAppendResult}
      (reached : SqliteReachable q)
      (appended : q.appendClassified pending = .ok (q', result)) : SqliteReachable q'
  | create {q q' : SqliteStore} {threadId : ThreadId} {events : List NewStreamEvent}
      {stored : List StoredEvent} (reached : SqliteReachable q)
      (created : q.createStreamAtomic threadId events = .ok (q', stored)) : SqliteReachable q'

/-- **Refinement.**  Every reachable SQLite store refines a reachable in-memory
store. -/
theorem SqliteReachable.refines {q : SqliteStore} (reached : SqliteReachable q) :
    ∃ s, StoreReachable s ∧ Refines q s := by
  induction reached with
  | empty => exact ⟨.empty, .empty, empty_refines⟩
  | append _ appended ih =>
    obtain ⟨s, reached, refines⟩ := ih
    obtain ⟨s', appended', refines'⟩ := refines.append reached.wf appended
    exact ⟨s', reached.step (.append appended'), refines'⟩
  | create _ created ih =>
    obtain ⟨s, reached, refines⟩ := ih
    obtain ⟨s', created', refines'⟩ := refines.create reached.wf reached.live created
    exact ⟨s', reached.step (.create created'), refines'⟩

/-! ## The live-wait index equals the journal -/

/-- The running Turn of the Thread is Waiting or Ready. -/
def OpenWait (thread : Thread) (turn : Turn) (execution : AgentLoopExecution) : Prop :=
  runningTurn thread = some turn ∧ agentLoopExecutionProjection turn = .ok (some execution) ∧
    execution.isOpen = true

/-- What an Event Store's rows and due index owe its journals. -/
structure IndexAgrees (journal : ThreadId → List StoredEvent)
    (rows : ThreadId → Option AgentLoopWaitProjection)
    (isDue : AgentLoopDueIndexKey → Prop) : Prop where
  present : ∀ threadId thread, projectEvents (journal threadId) = .ok (some thread) →
    ((rows threadId).isSome = true ↔ ∃ turn execution, OpenWait thread turn execution)
  fields : ∀ threadId thread row, projectEvents (journal threadId) = .ok (some thread) →
    rows threadId = some row → ∃ turn execution, OpenWait thread turn execution ∧
      RowMatches (journal threadId) threadId turn.id execution row
  valid : ∀ threadId row, rows threadId = some row → row.validate = .ok ()
  due : ∀ key, isDue key ↔
    ∃ threadId row, rows threadId = some row ∧ row.dueIndexKey = some key

theorem runningExecution_eq_some {thread : Thread} {turnId : TurnId}
    {execution : AgentLoopExecution} :
    runningExecution thread = some (turnId, execution) ↔
      ∃ turn, runningTurn thread = some turn ∧
        agentLoopExecutionProjection turn = .ok (some execution) ∧ turn.id = turnId := by
  unfold runningExecution
  rw [Option.bind_eq_some_iff]
  refine exists_congr fun turn => and_congr_right fun _ => ?_
  split
  · rename_i read
    simp only [read, Option.some.injEq, Prod.mk.injEq, Except.ok.injEq]
    exact and_comm
  · rename_i other
    simp only [reduceCtorEq, false_iff, not_and]
    intro read
    exact absurd read (other execution)

theorem LiveWaits.indexAgrees {s : MemoryStore} (wf : StoreWF s) (live : LiveWaits s) :
    IndexAgrees s.journal s.agentLoopWaits (· ∈ s.agentLoopDue) where
  present := by
    intro threadId thread projects
    have agrees := live.agrees threadId _ (projectEvents_eq_ok.1 projects).1
    cases row : s.agentLoopWaits threadId with
    | none =>
      rw [row] at agrees
      simp only [Option.isSome_none, Bool.false_eq_true, false_iff, not_exists]
      rintro turn execution ⟨running, read, isOpen⟩
      have closed := agrees thread rfl turn.id execution
        (runningExecution_eq_some.2 ⟨turn, running, read, rfl⟩)
      rw [closed] at isOpen
      cases isOpen
    | some row' =>
      rw [row] at agrees
      obtain ⟨t, turnId, execution, same, found, isOpen, _⟩ := agrees
      cases same
      obtain ⟨turn, running, read, _⟩ := runningExecution_eq_some.1 found
      simp only [Option.isSome_some, true_iff]
      exact ⟨turn, execution, running, read, isOpen⟩
  fields := by
    intro threadId thread row projects found
    have replays := (projectEvents_eq_ok.1 projects).1
    have agrees := live.agrees threadId _ replays
    rw [found] at agrees
    obtain ⟨t, turnId, execution, same, read, isOpen, rowMatches⟩ := agrees
    cases same
    obtain ⟨turn, running, projected, rfl⟩ := runningExecution_eq_some.1 read
    rw [(replays.wf (wf.journalOf threadId)).2] at rowMatches
    exact ⟨turn, execution, ⟨running, projected, isOpen⟩, rowMatches⟩
  valid := fun threadId row found => (live.rows threadId row found).2
  due := live.due

namespace SqliteStore

def journal (q : SqliteStore) (threadId : ThreadId) : List StoredEvent :=
  q.events.filter fun stored => stored.threadId == threadId

/-- The entries of the index `agent_loop_wait_due`. -/
def isDue (q : SqliteStore) (key : AgentLoopDueIndexKey) : Prop :=
  ∃ threadId row, q.agentLoopWaitProjection threadId = some row ∧ row.dueIndexKey = some key

end SqliteStore

/-- **The live-wait index equals the journal.**  In every reachable Event Store,
for every Thread whose journal `project_events` accepts, a live row exists
exactly when the running Turn is Waiting or Ready, and its fields are those of
the projection and its events; every row is valid, and the due index holds
exactly the due keys of the rows. -/
theorem live_rows_equal_journal {s : MemoryStore} (reached : StoreReachable s) {q : SqliteStore}
    (sqliteReached : SqliteReachable q) :
    IndexAgrees s.journal s.agentLoopWaits (· ∈ s.agentLoopDue) ∧
      IndexAgrees q.journal q.agentLoopWaitProjection q.isDue := by
  refine ⟨reached.live.indexAgrees reached.wf, ?_⟩
  obtain ⟨m, memoryReached, refines⟩ := sqliteReached.refines
  have sameJournal : q.journal = m.journal := by
    funext threadId
    simp [SqliteStore.journal, MemoryStore.journal, refines.events]
  have agrees := memoryReached.live.indexAgrees memoryReached.wf
  rw [sameJournal, refines.waits]
  exact ⟨agrees.present, agrees.fields, agrees.valid, fun key => by
    rw [SqliteStore.isDue, refines.waits]⟩

/-! ## A store with a live wait -/

/-- Append events to a store, one after the other. -/
def MemoryStore.appendAll (s : MemoryStore) (pending : List PendingEvent) :
    Except HarnessError MemoryStore :=
  pending.foldlM (fun s p => do
    let (s, _) ← s.appendClassified p
    .ok s) s

def SqliteStore.appendAll (q : SqliteStore) (pending : List PendingEvent) :
    Except HarnessError SqliteStore :=
  pending.foldlM (fun q p => do
    let (q, _) ← q.appendClassified p
    .ok q) q

variable {pending : List PendingEvent}

theorem appendAll_reachable {s s' : MemoryStore} (reached : StoreReachable s)
    (appended : s.appendAll pending = .ok s') :
    StoreReachable s' := by
  induction pending generalizing s with
  | nil => cases appended; exact reached
  | cons p rest ih =>
    simp only [MemoryStore.appendAll, List.foldlM_cons, bind_eq_ok, Prod.exists,
      Except.ok.injEq] at appended
    obtain ⟨next, ⟨_, _, first, rfl⟩, later⟩ := appended
    exact ih (reached.step (.append first)) later

theorem sqliteAppendAll_reachable {q q' : SqliteStore} (reached : SqliteReachable q)
    (appended : q.appendAll pending = .ok q') :
    SqliteReachable q' := by
  induction pending generalizing q with
  | nil => cases appended; exact reached
  | cons p rest ih =>
    simp only [SqliteStore.appendAll, List.foldlM_cons, bind_eq_ok, Prod.exists,
      Except.ok.injEq] at appended
    obtain ⟨next, ⟨_, _, first, rfl⟩, later⟩ := appended
    exact ih (.append reached first) later

end Refinement

def sampleModelSha256 : String :=
  "b1f51a511f1da0cd348b8f8598db32e61cb963e5fc69e2b41485bf99590ed75a"

def sampleGeneration : CompletionGeneration :=
  { formatVersion := 1
    modelRequestSha256 := sampleModelSha256
    modelRouteSha256 := sampleModelSha256
    toolViewSha256 := sampleModelSha256
    verifierManifestSha256 := sampleModelSha256
    runtimeGovernanceSha256 := sampleModelSha256
    executionBindingSha256 := none
    assurance := .runtimeMeasured
    generationSha256 := "c8b1305719cbe5a75e01ab18599c2eacc954612c8f09db3698179bd8db63d6b2" }

def sampleRequest : ApprovalRequest :=
  { id := "approval-1"
    requestedBy := .localProcess
    authorization :=
      { threadId := "thread-1", turnId := "turn-1", callId := "call-1"
        descriptor := ⟨"shell", "run a command", .obj []⟩
        origin := .builtIn, input := .obj [] }
    reason := "needs approval"
    risk := .high }

def sampleEnvelope : TurnWaitEnvelope :=
  { waitId := "wait-1", revision := 1, threadId := "thread-1", turnId := "turn-1"
    tenantId := none, requestedBy := .localProcess, serverStartedAtMs := 1000
    expiresAtMs := some 61000, remainingActiveTimeoutMs := none
    completionGeneration := sampleGeneration
    waitKind := ⟨sampleRequest, sampleModelSha256⟩
    envelopeSha256 := "9e5b3b50dd55b19e57f7a7cb0b283e5ff35755f26126feeaf246d39e33e44d6a" }

/-- SHA-256 on the two inputs the sample wait needs. -/
@[reducible] def sampleSha256 : Sha256 where
  toNumberReader := exactReader
  digest input :=
    if input = .completion "generation" (canonicalizeJson (generationPayload sampleGeneration))
    then sampleGeneration.generationSha256
    else if input = .json (.arr [.str "y-harness.agent-loop.wait-envelope.v1",
      { sampleEnvelope with envelopeSha256 := "" }.toJson])
    then sampleEnvelope.envelopeSha256
    else sampleModelSha256
  digest_lower input := by
    dsimp only
    split
    · decide
    · split <;> decide

def sampleCreated : StateEvent := .threadCreated 1 none

def sampleWaitStarted : StateEvent :=
  .waitStarted "turn-1"
    ⟨"item-1", 1000, .approvalRequested "approval-1" "call-1" "shell" "needs approval" .high
      (some .localProcess) (some .builtIn) (some sampleModelSha256)⟩
    ⟨"item-2", 1000, .agentLoopWaitStarted sampleEnvelope⟩

/-- A Thread with a running Turn that opened a wait. -/
def sampleAppends : List PendingEvent :=
  [⟨"event-1", "thread-1", 0, 0, 1, sampleCreated⟩,
    ⟨"event-2", "thread-1", 1, recoveryCharge sampleCreated, 2, .turnStarted "turn-1"⟩,
    ⟨"event-3", "thread-1", 2, recoveryCharge sampleCreated +
      recoveryCharge (.turnStarted "turn-1"), 1000, sampleWaitStarted⟩]

/-- The same wait, opened in a Turn that was never started. -/
def unstartedAppends : List PendingEvent :=
  [⟨"event-1", "thread-1", 0, 0, 1, sampleCreated⟩,
    ⟨"event-3", "thread-1", 1, recoveryCharge sampleCreated, 1000, sampleWaitStarted⟩]

theorem live_rows_equal_journal_sample :
    ∃ s q, @MemoryStore.appendAll sampleSha256 .empty sampleAppends = .ok s ∧
      @SqliteStore.appendAll sampleSha256 .empty sampleAppends = .ok q ∧
      (s.agentLoopWaits "thread-1").isSome = true ∧
      (q.agentLoopWaitProjection "thread-1").isSome = true ∧
      @IndexAgrees sampleSha256 s.journal s.agentLoopWaits (· ∈ s.agentLoopDue) ∧
      @IndexAgrees sampleSha256 q.journal q.agentLoopWaitProjection q.isDue := by
  let _ := sampleSha256
  have memory : (match MemoryStore.empty.appendAll sampleAppends with
      | .ok s => (s.agentLoopWaits "thread-1").isSome
      | .error _ => false) = true := by decide +kernel
  have sqlite : (match SqliteStore.empty.appendAll sampleAppends with
      | .ok q => (q.agentLoopWaitProjection "thread-1").isSome
      | .error _ => false) = true := by decide +kernel
  split at memory
  · rename_i s appended
    split at sqlite
    · rename_i q sqliteAppended
      have agrees := live_rows_equal_journal (appendAll_reachable .empty appended)
        (sqliteAppendAll_reachable .empty sqliteAppended)
      exact ⟨s, q, appended, sqliteAppended, memory, sqlite, agrees.1, agrees.2⟩
    · cases sqlite
  · cases memory

/-- The store itself does not replay: it accepts a wait for a Turn that was
never started, and then holds a row although no Turn is running. -/
theorem unstarted_wait_has_row :
    ¬ ∀ (_ : Sha256) (s : MemoryStore), StoreReachable s → ∀ threadId,
      ((s.agentLoopWaits threadId).isSome = true ↔ ∃ thread turn execution,
        projectEvents (s.journal threadId) = .ok (some thread) ∧
          OpenWait thread turn execution) := by
  intro claim
  let _ := sampleSha256
  have accepted : (match MemoryStore.empty.appendAll unstartedAppends with
      | .ok s => (s.agentLoopWaits "thread-1").isSome &&
          !(projectEvents (s.journal "thread-1")).toOption.isSome
      | .error _ => false) = true := by decide +kernel
  split at accepted
  · rename_i s appended
    rw [Bool.and_eq_true] at accepted
    obtain ⟨_, _, _, projects, _⟩ :=
      (claim sampleSha256 s (appendAll_reachable .empty appended) "thread-1").1 accepted.1
    rw [projects] at accepted
    cases accepted.2
  · cases accepted

end YHarness.State

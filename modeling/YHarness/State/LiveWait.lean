/-
# YHarness.State.LiveWait -- the live-wait row is the one the journal determines

The row an Event Store keeps for a Thread is updated event by event.  Here it is
compared with what the journal says: the wait of the running Turn, read back
from its Items, and the events that opened and last moved it.  For every Thread
that replays, the two agree (`StoreReachable.live`).
-/
import YHarness.State.Ledger

namespace YHarness.State

open YHarness.Lib YHarness.Kernel

set_option autoImplicit false

/-! ## What the journal determines -/

/-- The running Turn of a Thread. -/
def runningTurn (thread : Thread) : Option Turn :=
  thread.turns.find? fun turn => turn.status == .running

/-- The phase of an open wait. -/
def openDuePhase : AgentLoopExecution → Option AgentLoopDuePhase
  | .waiting _ => some .waiting
  | .ready _ resume => some (if resume.settlement.decision.isDeny then .readyDeny else .readyAllow)
  | .executing _ _ _ => none

/-- When an open wait is due: at its expiry, or at once after a denial. -/
def openDueAtMs : AgentLoopExecution → Option UInt64
  | .waiting envelope => envelope.expiresAtMs
  | .ready envelope resume =>
    if resume.settlement.decision.isDeny then some resume.acceptedAtMs else envelope.expiresAtMs
  | .executing _ _ _ => none

def openResumeCommandId : AgentLoopExecution → Option AgentLoopResumeCommandId
  | .ready _ resume => some resume.commandId
  | _ => none

/-- The event that opened a wait of the Turn. -/
def opensWaitOf (turnId : TurnId) (e : StoredEvent) : Bool :=
  match e.event with
  | .waitStarted id _ _ => id == turnId
  | _ => false

/-- The events that leave a wait of the Turn open. -/
def movesWaitOf (turnId : TurnId) (e : StoredEvent) : Bool :=
  match e.event with
  | .waitStarted id _ _ | .acceptResume id _ _ => id == turnId
  | _ => false

def lastEventId (p : StoredEvent → Bool) (events : List StoredEvent) : Option EventId :=
  (events.reverse.find? p).map (·.eventId)

@[simp] theorem lastEventId_concat (p : StoredEvent → Bool) (events : List StoredEvent)
    (e : StoredEvent) :
    lastEventId p (events ++ [e]) = if p e then some e.eventId else lastEventId p events := by
  by_cases holds : p e = true <;> simp [lastEventId, holds]

/-- The row of an open wait, field by field. -/
structure RowMatches (events : List StoredEvent) (threadId : ThreadId) (turnId : TurnId)
    (execution : AgentLoopExecution) (row : AgentLoopWaitProjection) : Prop where
  phase : openDuePhase execution = some row.phase
  tenantId : row.tenantId = execution.envelope.tenantId
  thread : row.threadId = threadId
  turn : row.turnId = turnId
  waitId : row.waitId = execution.waitId
  revision : row.revision = execution.revision
  dueAtMs : row.dueAtMs = openDueAtMs execution
  approvalId : row.approvalId = execution.envelope.waitKind.request.id
  envelopeSha256 : row.envelopeSha256 = execution.envelope.envelopeSha256
  waitStarted : lastEventId (opensWaitOf turnId) events = some row.waitStartedEventId
  currentTransition :
    lastEventId (movesWaitOf turnId) events = some row.currentTransitionEventId
  resumeCommandId : row.resumeCommandId = openResumeCommandId execution

/-! ## What one event asks of the row -/

/-- The row after a change. -/
def changedRow (row : Option AgentLoopWaitProjection) :
    AgentLoopWaitProjectionChange → Option AgentLoopWaitProjection
  | .unchanged => row
  | .upsert next => some next
  | .delete _ => none

def isWaitEvent : StateEvent → Bool
  | .waitStarted .. | .acceptResume .. | .claimReady .. | .waitClosed .. | .denyWait .. => true
  | _ => false

variable {row : Option AgentLoopWaitProjection} {change : AgentLoopWaitProjectionChange}
  {thread : Thread} {e : StoredEvent} {events : List StoredEvent} {before : List Turn}
  {turnId : TurnId} {turn : Turn} {key : AgentLoopDueIndexKey} {cursor : ExecutionCursor}
  {s : MemoryStore} {first transition : Item} {items : List Item}
  {due : Finset AgentLoopDueIndexKey}

theorem projectionChange_eq_ok :
    projectionChange e row = .ok change ↔
      requestedChange e row = .ok change ∧ validateChange change = .ok () := by
  simp only [projectionChange, bind_eq_ok (α := AgentLoopWaitProjectionChange), seq_eq_ok,
    Except.ok.injEq]
  constructor
  · rintro ⟨_, requested, valid, rfl⟩
    exact ⟨requested, valid⟩
  · rintro ⟨requested, valid⟩
    exact ⟨change, requested, valid, rfl⟩

theorem requestedChange_plain (plain : isWaitEvent e.event = false)
    (requested : requestedChange e row = .ok change) : change = .unchanged := by
  unfold requestedChange at requested
  cases event : e.event with
  | turnFinished turnId status =>
    simp only [event, seq_eq_ok, ok_eq_ok] at requested
    exact requested.2
  | turnCompleted turnId receipt =>
    simp only [event, seq_eq_ok, ok_eq_ok] at requested
    exact requested.2
  | waitStarted => rw [event] at plain; cases plain
  | acceptResume => rw [event] at plain; cases plain
  | claimReady => rw [event] at plain; cases plain
  | waitClosed => rw [event] at plain; cases plain
  | denyWait => rw [event] at plain; cases plain
  | _ =>
    simp only [event, ok_eq_ok] at requested
    exact requested

theorem movesWaitOf_plain (plain : isWaitEvent e.event = false) (turnId : TurnId) :
    movesWaitOf turnId e = false ∧ opensWaitOf turnId e = false := by
  unfold movesWaitOf opensWaitOf
  cases event : e.event <;> first | exact ⟨rfl, rfl⟩ | (rw [event] at plain; cases plain)

theorem requireCurrent_eq_ok {threadId : ThreadId} {current : AgentLoopWaitProjection} :
    requireCurrent row threadId turnId = .ok current ↔
      row = some current ∧ current.threadId = threadId ∧ current.turnId = turnId ∧
        current.validate = .ok () := by
  simp only [requireCurrent, bind_eq_ok (α := AgentLoopWaitProjection), seq_eq_ok, orError_eq_ok,
    rejectIf_eq_ok, Bool.or_eq_false_iff, bne_eq_false_iff_eq, Except.ok.injEq]
  constructor
  · rintro ⟨_, found, ⟨thread, turn⟩, valid, rfl⟩
    exact ⟨found, thread, turn, valid⟩
  · rintro ⟨found, thread, turn, valid⟩
    exact ⟨current, found, ⟨thread, turn⟩, valid, rfl⟩

theorem requestedChange_waitStarted {envelope : TurnWaitEnvelope}
    (event : e.event = .waitStarted turnId first transition)
    (kind : transition.kind = .agentLoopWaitStarted envelope) :
    requestedChange e row = .ok change ↔
      row = none ∧ e.threadId = envelope.threadId ∧ turnId = envelope.turnId ∧
        change = .upsert
          { phase := .waiting, tenantId := envelope.tenantId, threadId := e.threadId, turnId,
            waitId := envelope.waitId, revision := envelope.revision,
            dueAtMs := envelope.expiresAtMs, approvalId := envelope.waitKind.request.id,
            envelopeSha256 := envelope.envelopeSha256, waitStartedEventId := e.eventId,
            currentTransitionEventId := e.eventId, resumeCommandId := none } := by
  simp only [requestedChange, event, kind, seq_eq_ok, rejectIf_eq_ok, Bool.or_eq_false_iff,
    bne_eq_false_iff_eq, Option.isSome_eq_false_iff, Option.isNone_iff_eq_none, ok_eq_ok,
    and_assoc]

theorem requestedChange_acceptResume {evidence : ResumeEvidence}
    (event : e.event = .acceptResume turnId first transition)
    (kind : transition.kind = .agentLoopResumeAccepted evidence) :
    requestedChange e row = .ok change ↔
      ∃ current, (row = some current ∧ current.threadId = e.threadId ∧ current.turnId = turnId ∧
        current.validate = .ok ()) ∧ current.phase = .waiting ∧
        evidence.waitId = current.waitId ∧ evidence.previousRevision = current.revision ∧
        checkedSucc current.revision = some evidence.revision ∧
        settlementMatchesProjection evidence.settlement current = true ∧
        change = .upsert { current with
          phase := (settledPhase current evidence).1
          revision := evidence.revision
          dueAtMs := (settledPhase current evidence).2
          currentTransitionEventId := e.eventId
          resumeCommandId := some evidence.commandId } := by
  simp only [requestedChange, event, kind, bind_eq_ok (α := AgentLoopWaitProjection), seq_eq_ok,
    requireCurrent_eq_ok, rejectIf_eq_ok, Bool.or_eq_false_iff, bne_eq_false_iff_eq,
    Bool.not_eq_false', ok_eq_ok, and_assoc]

/-- The events that end a wait delete its row. -/
theorem requestedChange_delete (ends : match e.event with
      | .claimReady .. | .waitClosed .. | .denyWait .. => True
      | _ => False) (requested : requestedChange e row = .ok change) :
    ∃ current, row = some current ∧ current.threadId = e.threadId ∧ change = .delete current := by
  unfold requestedChange at requested
  cases event : e.event with
  | claimReady _ _ | waitClosed _ _ _ _ | denyWait _ _ _ =>
    rw [event] at requested
    obtain ⟨current, required, requested⟩ := bind_eq_ok.1 requested
    obtain ⟨found, owner, _⟩ := requireCurrent_eq_ok.1 required
    split at requested
    · cases rest_ok requested
      exact ⟨current, found, owner, rfl⟩
    · cases requested
  | _ => rw [event] at ends; cases ends

/-! ## The due index -/

theorem mem_eraseDue :
    key ∈ MemoryStore.eraseDue due row ↔
      key ∈ due ∧ row.bind AgentLoopWaitProjection.dueIndexKey ≠ some key := by
  unfold MemoryStore.eraseDue
  cases scheduled : row.bind AgentLoopWaitProjection.dueIndexKey with
  | none => simp
  | some other => simp [and_comm, eq_comm]

theorem mem_insertDue {row : AgentLoopWaitProjection} :
    key ∈ MemoryStore.insertDue due row ↔ row.dueIndexKey = some key ∨ key ∈ due := by
  unfold MemoryStore.insertDue
  cases scheduled : row.dueIndexKey with
  | none => simp
  | some other => simp [eq_comm]

theorem dueIndexKey_thread {row : AgentLoopWaitProjection} (scheduled : row.dueIndexKey = some key) :
    key.threadId = row.threadId := by
  obtain ⟨_, _, rfl⟩ := Option.map_eq_some_iff.1 scheduled
  rfl

/-! ## The running Turn of a step -/

theorem runningTurn_last (last : thread.turns = before ++ [turn])
    (idle : ∀ t ∈ before, t.status ≠ .running) :
    runningTurn thread = if turn.status = .running then some turn else none := by
  have absent : before.find? (fun t => t.status == .running) = none := by
    rw [List.find?_eq_none]
    intro t member
    simpa using idle t member
  rw [runningTurn, last, List.find?_append, absent]
  by_cases running : turn.status = .running <;> simp [running]

theorem runningTurn_none (idle : ∀ t ∈ thread.turns, t.status ≠ .running) :
    runningTurn thread = none := by
  rw [runningTurn, List.find?_eq_none]
  intro t member
  simpa using idle t member

variable [Sha256]

/-- The wait of the running Turn, when there is one. -/
def runningExecution (thread : Thread) : Option (TurnId × AgentLoopExecution) :=
  (runningTurn thread).bind fun turn =>
    match agentLoopExecutionProjection turn with
    | .ok (some execution) => some (turn.id, execution)
    | _ => none

/-- A live row exists exactly when the running Turn is Waiting or Ready, and is
the one the projection and the journal determine. -/
def RowAgrees (events : List StoredEvent) (thread : Option Thread) :
    Option AgentLoopWaitProjection → Prop
  | none => ∀ t, thread = some t → ∀ turnId execution,
      runningExecution t = some (turnId, execution) → execution.isOpen = false
  | some row => ∃ t turnId execution, thread = some t ∧
      runningExecution t = some (turnId, execution) ∧ execution.isOpen = true ∧
      RowMatches events t.id turnId execution row

theorem ThreadWF.idle_before (wf : ThreadWF thread) (last : thread.turns = before ++ [turn]) :
    ∀ t ∈ before, t.status ≠ .running := by
  have idle := wf.runningLast
  rwa [last, List.dropLast_concat] at idle

/-- The running Turn's wait, from the scan of its Items. -/
theorem runningExecution_last {thread : Thread} {before : List Turn} {turn : Turn}
    {cursor : ExecutionCursor} (last : thread.turns = before ++ [turn])
    (idle : ∀ t ∈ before, t.status ≠ .running) (running : turn.status = .running)
    (scanned : scanItems turn.id turn.items = .ok cursor) :
    runningExecution thread = cursor.execution.map fun execution => (turn.id, execution) := by
  have read : agentLoopExecutionProjection turn = .ok cursor.execution :=
    agentLoopExecutionProjection_eq_ok.2 ⟨cursor, scanned, rfl⟩
  rw [runningExecution, runningTurn_last last idle, if_pos running, Option.bind_some, read]
  cases cursor.execution <;> rfl

theorem runningExecution_none (idle : runningTurn thread = none) :
    runningExecution thread = none := by
  rw [runningExecution, idle, Option.bind_none]

theorem rowAgrees_none (idle : runningExecution thread = none) :
    RowAgrees events (some thread) none := by
  rintro t ⟨⟩ turnId execution read
  rw [idle] at read
  cases read

theorem RowAgrees.row_none (agrees : RowAgrees events (some thread) row) (idle : ∀ turnId execution,
      runningExecution thread = some (turnId, execution) → execution.isOpen = false) :
    row = none := by
  cases row with
  | none => rfl
  | some row =>
    obtain ⟨t, turnId, execution, same, read, isOpen, _⟩ := agrees
    cases same
    rw [idle turnId execution read] at isOpen
    cases isOpen

/-- The row of a Thread whose running Turn has an open wait. -/
theorem RowAgrees.row_some {execution : AgentLoopExecution}
    (agrees : RowAgrees events (some thread) row)
    (read : runningExecution thread = some (turnId, execution)) (isOpen : execution.isOpen = true) :
    ∃ r, row = some r ∧ RowMatches events thread.id turnId execution r := by
  cases row with
  | none =>
    rw [agrees thread rfl turnId execution read] at isOpen
    cases isOpen
  | some r =>
    obtain ⟨t, turnId', execution', same, read', _, rowMatches⟩ := agrees
    cases same
    rw [read] at read'
    cases read'
    exact ⟨r, rfl, rowMatches⟩

/-! ## One event -/

/-- An event that moves no wait keeps the row, as long as the running Turn's
wait stays as it was. -/
theorem RowAgrees.keep {thread thread' : Thread} (agrees : RowAgrees events (some thread) row)
    (plain : isWaitEvent e.event = false) (sameId : thread'.id = thread.id)
    (sameExecution : runningExecution thread' = runningExecution thread) :
    RowAgrees (events ++ [e]) (some thread') row := by
  cases row with
  | none =>
    rintro t ⟨⟩ turnId execution read
    rw [sameExecution] at read
    exact agrees thread rfl turnId execution read
  | some row =>
    obtain ⟨t, turnId, execution, same, read, isOpen, rowMatches⟩ := agrees
    cases same
    obtain ⟨still, stillOpen⟩ := movesWaitOf_plain plain turnId
    refine ⟨thread', turnId, execution, rfl, by rw [sameExecution, read], isOpen, ?_⟩
    rw [sameId]
    exact { rowMatches with
      waitStarted := by simpa [stillOpen] using rowMatches.waitStarted
      currentTransition := by simpa [still] using rowMatches.currentTransition }

/-- The wait of the Turn a wait event appends to, before the event. -/
theorem appended_execution (wf : ThreadWF thread) (last : thread.turns = before ++ [turn])
    (running : turn.status = .running) :
    ∃ earlier, scanItems turn.id turn.items = .ok earlier ∧ earlier.closed = false ∧
      runningExecution thread = earlier.execution.map fun execution => (turn.id, execution) := by
  obtain ⟨earlier, scannedEarlier, live⟩ := wf.scanned turn (by simp [last])
  exact ⟨earlier, scannedEarlier, live running,
    runningExecution_last last (wf.idle_before last) running scannedEarlier⟩

/-- The scan of a pair of Items: the first is plain, the second moves the wait. -/
theorem scanItems_pair {earlier cursor : ExecutionCursor}
    (scanned : scanItems turnId items = .ok earlier) (live : earlier.closed = false)
    (plain : isTransitionKind first.kind = false) :
    scanItems turnId (items ++ [first, transition]) = .ok cursor ↔
      projectItem turnId { earlier with seen := earlier.seen ++ [first] } transition =
        .ok cursor := by
  have middle : scanItems turnId (items ++ [first]) = .ok _ :=
    scanItems_plain scanned live (by simpa using plain)
  rw [show items ++ [first, transition] = (items ++ [first]) ++ [transition] by simp,
    scanItems_concat]
  constructor
  · rintro ⟨_, scannedMiddle, projected⟩
    rw [middle] at scannedMiddle
    cases scannedMiddle
    exact projected
  · intro projected
    exact ⟨_, middle, projected⟩

/-- Items join the running Turn: the wait read after them. -/
theorem runningExecution_appended (wf : ThreadWF thread) (last : thread.turns = before ++ [turn])
    (scanned : scanItems turn.id (turn.items ++ items) = .ok cursor) :
    runningExecution { thread with
      turns := before ++ [{ turn with items := turn.items ++ items, status := .running }] } =
      cursor.execution.map fun execution => (turn.id, execution) :=
  @runningExecution_last _ _ before
    { turn with items := turn.items ++ items, status := .running } cursor rfl
    (wf.idle_before last) rfl scanned

theorem runningExecution_settled {turn turn' : Turn} (wf : ThreadWF thread)
    (last : thread.turns = before ++ [turn]) (settled : turn'.status ≠ .running) :
    runningExecution { thread with turns := before ++ [turn'] } = none := by
  refine runningExecution_none ?_
  rw [runningTurn_last rfl (wf.idle_before last), if_neg settled]

/-- An event that carries Items moves the row as it moves the wait. -/
theorem RowAgrees.appended (agrees : RowAgrees events (some thread) row) (wf : ThreadWF thread)
    (owner : thread.id = e.threadId) (valid : validateStateEvent e.event = .ok ())
    (schema : validateStoredSchema e = .ok ()) (requested : requestedChange e row = .ok change)
    (carried : carriedItems e.event = some (turnId, items)) (last : thread.turns = before ++ [turn])
    (same : turn.id = turnId) (running : turn.status = .running)
    (scanned : scanItems turnId (turn.items ++ items) = .ok cursor)
    (settles : closingStatus e.event ≠ some .running) :
    RowAgrees (events ++ [e]) (some { thread with
      turns := before ++ [{ turn with
        items := turn.items ++ items
        status := (closingStatus e.event).getD .running }] }) (changedRow row change) := by
  subst same
  have eventSchema := validateStoredSchema_event schema
  obtain ⟨earlier, scannedEarlier, live, read⟩ := appended_execution wf last running
  have readAfter := runningExecution_appended wf last scanned
  cases event : e.event with
  | itemAppended turnId' item =>
    rw [event] at carried
    cases carried
    rw [requestedChange_plain (by rw [event]; rfl) requested]
    refine agrees.keep (by rw [event]; rfl) rfl ?_
    have unchanged := scan_plain_event valid eventSchema (by rw [event]; rfl)
      (.inl ⟨item, event⟩) scannedEarlier live
    rw [scanned] at unchanged
    cases unchanged
    rw [read]
    exact readAfter
  | toolCallsAppended turnId' calls =>
    rw [event] at carried
    cases carried
    rw [requestedChange_plain (by rw [event]; rfl) requested]
    refine agrees.keep (by rw [event]; rfl) rfl ?_
    have unchanged := scan_plain_event valid eventSchema (by rw [event]; rfl)
      (.inr ⟨items, event⟩) scannedEarlier live
    rw [scanned] at unchanged
    cases unchanged
    rw [read]
    exact readAfter
  | waitStarted turnId' first transition =>
    rw [event] at carried valid
    cases carried
    obtain ⟨_, envelope, kind, _, request⟩ := waitStarted_eq_ok.1 valid
    have plain : isTransitionKind first.kind = false := by
      simp only [approvalRequestedMatchesEnvelope, beq_iff_eq] at request
      rw [request]
      rfl
    obtain ⟨_, _, _, _, _, rfl⟩ := (projectItem_waitStarted kind).1
      ((scanItems_pair scannedEarlier live plain).1 scanned)
    obtain ⟨rfl, sameThread, _, rfl⟩ := (requestedChange_waitStarted event kind).1 requested
    refine ⟨_, turn.id, .waiting envelope, rfl, readAfter, rfl, ?_⟩
    exact
      { phase := rfl, tenantId := rfl, thread := owner.symm, turn := rfl, waitId := rfl
        revision := rfl, dueAtMs := rfl, approvalId := rfl, envelopeSha256 := rfl
        waitStarted := by simp [opensWaitOf, event]
        currentTransition := by simp [movesWaitOf, event]
        resumeCommandId := rfl }
  | acceptResume turnId' first transition =>
    rw [event] at carried valid
    cases carried
    obtain ⟨_, evidence, kind, decision⟩ := acceptResume_eq_ok.1 valid
    have plain : isTransitionKind first.kind = false := by
      simp only [approvalDecisionMatchesResume, beq_iff_eq] at decision
      rw [decision]
      rfl
    obtain ⟨_, envelope, waiting, _, _, rfl⟩ := (projectItem_resumeAccepted kind).1
      ((scanItems_pair scannedEarlier live plain).1 scanned)
    obtain ⟨current, ⟨rfl, _, _, _⟩, _, _, _, _, _, rfl⟩ :=
      (requestedChange_acceptResume event kind).1 requested
    simp only at waiting
    rw [waiting, Option.map_some] at read
    obtain ⟨_, same, rowMatches⟩ := agrees.row_some read rfl
    cases same
    refine ⟨_, turn.id, .ready envelope evidence, rfl, readAfter, rfl, ?_⟩
    exact
      { phase := by
          simp only [openDuePhase, settledPhase]
          cases evidence.settlement.decision <;> rfl
        tenantId := rowMatches.tenantId, thread := rowMatches.thread, turn := rowMatches.turn
        waitId := rowMatches.waitId, revision := rfl
        dueAtMs := by
          simp only [openDueAtMs, settledPhase]
          cases evidence.settlement.decision with
          | approve => exact rowMatches.dueAtMs
          | deny reason => rfl
        approvalId := rowMatches.approvalId, envelopeSha256 := rowMatches.envelopeSha256
        waitStarted := by simpa [opensWaitOf, event] using rowMatches.waitStarted
        currentTransition := by simp [movesWaitOf, event]
        resumeCommandId := rfl }
  | claimReady turnId' transition =>
    rw [event] at carried valid
    cases carried
    obtain ⟨_, _, _, evidence, kind⟩ := claimReady_eq_ok.1 valid
    obtain ⟨_, scannedEarlier', projected⟩ := scanItems_concat.1 scanned
    obtain ⟨_, envelope, resume, ready, _, _, rfl⟩ := (projectItem_readyClaimed kind).1 projected
    obtain ⟨current, _, _, rfl⟩ := requestedChange_delete (by rw [event]; trivial) requested
    rintro t ⟨⟩ turnId execution readClaimed
    have claimed := readAfter.symm.trans readClaimed
    simp only [Option.map_some, Option.some.injEq, Prod.mk.injEq] at claimed
    rw [← claimed.2]
    rfl
  | waitClosed turnId' stopped transition status =>
    rw [event] at valid settles
    obtain ⟨_, evidence, kind, _, _, _⟩ := waitClosed_eq_ok.1 valid
    obtain ⟨current, _, _, rfl⟩ := requestedChange_delete (by rw [event]; trivial) requested
    refine rowAgrees_none (runningExecution_settled wf last ?_)
    simpa [closingStatus, eq_comm] using settles
  | denyWait turnId' first transition =>
    rw [event] at valid
    obtain ⟨_, evidence, kind, _, _⟩ := denyWait_eq_ok.1 valid
    obtain ⟨current, _, _, rfl⟩ := requestedChange_delete (by rw [event]; trivial) requested
    refine rowAgrees_none (runningExecution_settled wf last ?_)
    simp [closingStatus]
  | _ => rw [event] at carried; cases carried

/-- A Turn without an open wait leaves no row. -/
theorem RowAgrees.idle_row (agrees : RowAgrees events (some thread) row) (wf : ThreadWF thread)
    (last : thread.turns = before ++ [turn]) (running : turn.status = .running)
    (scanned : scanItems turn.id turn.items = .ok cursor)
    (idle : cursor.execution.any AgentLoopExecution.isOpen = false) : row = none := by
  refine agrees.row_none fun turnId execution found => ?_
  rw [runningExecution_last last (wf.idle_before last) running scanned] at found
  obtain ⟨_, present, pair⟩ := Option.map_eq_some_iff.1 found
  cases pair
  rw [present] at idle
  simpa using idle

/-- **One event.**  Whatever the reducer accepts for an event of a Thread that
replays keeps the row the one the journal determines. -/
theorem RowAgrees.step {events : List StoredEvent} {e : StoredEvent}
    {thread thread' : Option Thread} {row : Option AgentLoopWaitProjection}
    {change : AgentLoopWaitProjectionChange} (agrees : RowAgrees events thread row)
    (wf : ∀ t, thread = some t → ThreadWF t ∧ t.id = e.threadId)
    (valid : validateStateEvent e.event = .ok ()) (schema : validateStoredSchema e = .ok ())
    (requested : requestedChange e row = .ok change) (step : ThreadStep e thread thread') :
    RowAgrees (events ++ [e]) thread' (changedRow row change) := by
  cases step with
  | appended carried last same running fresh scanned closing settles =>
    obtain ⟨threadWf, owner⟩ := wf _ rfl
    exact agrees.appended threadWf owner valid schema requested carried last same running
      scanned settles
  | created is tenant =>
    rw [requestedChange_plain (by rw [is]; rfl) requested]
    cases row with
    | none => exact rowAgrees_none rfl
    | some row => obtain ⟨_, _, _, absent, _⟩ := agrees; cases absent
  | named is named =>
    rw [requestedChange_plain (by rw [is]; rfl) requested]
    exact agrees.keep (by rw [is]; rfl) rfl rfl
  | forked is lineageValid other fresh =>
    rw [requestedChange_plain (by rw [is]; rfl) requested]
    exact agrees.keep (by rw [is]; rfl) rfl rfl
  | imported is originValid fresh =>
    rw [requestedChange_plain (by rw [is]; rfl) requested]
    exact agrees.keep (by rw [is]; rfl) rfl rfl
  | @started turnId thread is is_new idle =>
    rw [requestedChange_plain (by rw [is]; rfl) requested]
    have none_before := runningExecution_none (runningTurn_none idle)
    refine agrees.keep (by rw [is]; rfl) rfl ?_
    rw [none_before]
    exact @runningExecution_last _ _ thread.turns ⟨turnId, e.threadId, .running, [], none⟩ .start
      rfl idle rfl rfl
  | @finished turnId status thread before turn cursor is settles last same running scanned idle =>
    obtain ⟨threadWf, owner⟩ := wf _ rfl
    subst same
    rw [requestedChange_plain (by rw [is]; rfl) requested]
    rw [agrees.idle_row threadWf last running scanned idle]
    exact rowAgrees_none (runningExecution_settled threadWf last settles)
  | @completed turnId receipt thread before turn cursor is last same running steered scanned idle
      placed =>
      obtain ⟨threadWf, owner⟩ := wf _ rfl
      subst same
      rw [requestedChange_plain (by rw [is]; rfl) requested]
      rw [agrees.idle_row threadWf last running scanned idle]
      exact rowAgrees_none (runningExecution_settled threadWf last (by simp))
  | checkpointed is is_new owner earlier =>
    rw [requestedChange_plain (by rw [is]; rfl) requested]
    exact agrees.keep (by rw [is]; rfl) rfl rfl

/-! ## Every reachable store -/

/-- The rows and the due index of a store. -/
structure LiveWaits (s : MemoryStore) : Prop where
  agrees : ∀ threadId thread, ReplaysTo (s.journal threadId) thread →
    RowAgrees (s.journal threadId) thread (s.agentLoopWaits threadId)
  rows : ∀ threadId row, s.agentLoopWaits threadId = some row →
    row.threadId = threadId ∧ row.validate = .ok ()
  due : ∀ key, key ∈ s.agentLoopDue ↔
    ∃ threadId row, s.agentLoopWaits threadId = some row ∧ row.dueIndexKey = some key

theorem empty_live : LiveWaits .empty where
  agrees := by
    intro threadId thread replays
    have absent : thread = none := replaysTo_nil.1 replays
    rintro t rfl
    cases absent
  rows := by simp [MemoryStore.empty]
  due := by simp [MemoryStore.empty]

/-- Where a change lands: in the row of the Thread the event belongs to. -/
theorem requestedChange_thread (valid : validateStateEvent e.event = .ok ())
    (requested : requestedChange e row = .ok change) :
    (∀ next, change = .upsert next → next.threadId = e.threadId) ∧
      ∀ previous, change = .delete previous →
        previous.threadId = e.threadId ∧ row = some previous := by
  cases event : e.event with
  | waitStarted turnId first transition =>
    rw [event] at valid
    obtain ⟨_, envelope, kind, _⟩ := waitStarted_eq_ok.1 valid
    obtain ⟨_, _, _, rfl⟩ := (requestedChange_waitStarted event kind).1 requested
    exact ⟨by rintro _ ⟨⟩; rfl, by simp⟩
  | acceptResume turnId first transition =>
    rw [event] at valid
    obtain ⟨_, evidence, kind, _⟩ := acceptResume_eq_ok.1 valid
    obtain ⟨current, ⟨_, owner, _⟩, _, _, _, _, _, rfl⟩ :=
      (requestedChange_acceptResume event kind).1 requested
    exact ⟨by rintro _ ⟨⟩; exact owner, by simp⟩
  | claimReady _ _ | waitClosed _ _ _ _ | denyWait _ _ _ =>
    obtain ⟨current, found, owner, rfl⟩ := requestedChange_delete (by rw [event]; trivial) requested
    exact ⟨by simp, by rintro _ ⟨⟩; exact ⟨owner, found⟩⟩
  | _ =>
    rw [requestedChange_plain (by rw [event]; rfl) requested]
    exact ⟨by simp, by simp⟩

theorem applyWaitChange_agentLoopWaits (valid : validateStateEvent e.event = .ok ())
    (requested : requestedChange e (s.agentLoopWaits e.threadId) = .ok change) :
    (s.applyWaitChange change).agentLoopWaits = Function.update s.agentLoopWaits e.threadId
      (changedRow (s.agentLoopWaits e.threadId) change) := by
  obtain ⟨upserts, deletes⟩ := requestedChange_thread valid requested
  cases change with
  | unchanged => simp [MemoryStore.applyWaitChange, changedRow]
  | upsert next => simp [MemoryStore.applyWaitChange, changedRow, upserts next rfl]
  | delete previous => simp [MemoryStore.applyWaitChange, changedRow, (deletes previous rfl).1]

/-- The due keys of the other Threads. -/
theorem LiveWaits.due_others (live : LiveWaits s) (threadId : ThreadId) (key : AgentLoopDueIndexKey) :
    (key ∈ s.agentLoopDue ∧
      (s.agentLoopWaits threadId).bind AgentLoopWaitProjection.dueIndexKey ≠ some key) ↔
      ∃ other row, other ≠ threadId ∧ s.agentLoopWaits other = some row ∧
        row.dueIndexKey = some key := by
  rw [live.due]
  constructor
  · rintro ⟨⟨other, row, found, scheduled⟩, different⟩
    refine ⟨other, row, ?_, found, scheduled⟩
    rintro rfl
    exact different (by rw [found]; exact scheduled)
  · rintro ⟨other, row, different, found, scheduled⟩
    refine ⟨⟨other, row, found, scheduled⟩, fun own => different ?_⟩
    obtain ⟨row', found', scheduled'⟩ := Option.bind_eq_some_iff.1 own
    rw [← (live.rows other row found).1, ← (live.rows threadId row' found').1,
      ← dueIndexKey_thread scheduled, ← dueIndexKey_thread scheduled']

theorem LiveWaits.due_applied (live : LiveWaits s) (valid : validateStateEvent e.event = .ok ())
    (requested : requestedChange e (s.agentLoopWaits e.threadId) = .ok change)
    (key : AgentLoopDueIndexKey) :
    key ∈ (s.applyWaitChange change).agentLoopDue ↔
      ∃ threadId row, (s.applyWaitChange change).agentLoopWaits threadId = some row ∧
        row.dueIndexKey = some key := by
  have others := live.due_others e.threadId key
  obtain ⟨upserts, deletes⟩ := requestedChange_thread valid requested
  have moved : (∃ threadId row, (s.applyWaitChange change).agentLoopWaits threadId = some row ∧
      row.dueIndexKey = some key) ↔
      (∃ row, changedRow (s.agentLoopWaits e.threadId) change = some row ∧
        row.dueIndexKey = some key) ∨
      ∃ other row, other ≠ e.threadId ∧ s.agentLoopWaits other = some row ∧
        row.dueIndexKey = some key := by
    rw [applyWaitChange_agentLoopWaits valid requested]
    constructor
    · rintro ⟨threadId, row, found, scheduled⟩
      by_cases same : threadId = e.threadId
      · rw [same, Function.update_self] at found
        exact .inl ⟨row, found, scheduled⟩
      · rw [Function.update_of_ne same] at found
        exact .inr ⟨threadId, row, same, found, scheduled⟩
    · rintro (⟨row, found, scheduled⟩ | ⟨other, row, different, found, scheduled⟩)
      · exact ⟨e.threadId, row, by rw [Function.update_self]; exact found, scheduled⟩
      · exact ⟨other, row, by rw [Function.update_of_ne different]; exact found, scheduled⟩
  rw [moved, ← others]
  cases change with
  | unchanged =>
    simp only [MemoryStore.applyWaitChange, changedRow]
    constructor
    · intro scheduled
      by_cases own : (s.agentLoopWaits e.threadId).bind AgentLoopWaitProjection.dueIndexKey =
          some key
      · exact .inl (Option.bind_eq_some_iff.1 own)
      · exact .inr ⟨scheduled, own⟩
    · rintro (⟨row, found, scheduled⟩ | ⟨scheduled, _⟩)
      · exact (live.due key).2 ⟨_, row, found, scheduled⟩
      · exact scheduled
  | upsert next =>
    simp [MemoryStore.applyWaitChange, changedRow, mem_insertDue, mem_eraseDue,
      upserts next rfl]
  | delete previous =>
    simp [MemoryStore.applyWaitChange, changedRow, mem_eraseDue, (deletes previous rfl).2]

/-- **An append keeps the rows and the due index.** -/
theorem Applied.live {s s' : MemoryStore} {pending : PendingEvent} (wf : StoreWF s)
    (live : LiveWaits s) (applied : Applied s pending s') : LiveWaits s' := by
  have journal := applied.journal
  have wf' := applied.wf wf
  have valid := (validateStoredEvent_eq_ok.1 (nextStored_valid (s := s) applied.pendingValid))
  obtain ⟨schema, _, _, valid, _⟩ := valid
  obtain ⟨change, changes, rfl⟩ := applied.commits
  obtain ⟨requested, changeValid⟩ := projectionChange_eq_ok.1 changes
  have rows : ∀ threadId, (s.commitEvent (s.nextStored pending) (recoveryCharge pending.event)
      change).agentLoopWaits threadId = Function.update s.agentLoopWaits pending.threadId
        (changedRow (s.agentLoopWaits pending.threadId) change) threadId := by
    intro threadId
    rw [MemoryStore.commitEvent_agentLoopWaits, applyWaitChange_agentLoopWaits valid requested]
    rfl
  refine ⟨?_, ?_, ?_⟩
  · intro threadId thread replays
    rw [rows]
    by_cases same : pending.threadId = threadId
    · subst same
      have grown := journal pending.threadId
      rw [if_pos rfl] at grown
      rw [grown] at replays ⊢
      have journalOf := wf'.journalOf pending.threadId
      rw [grown] at journalOf
      obtain ⟨earlier, replaysEarlier, step⟩ := (replaysTo_concat journalOf).1 replays
      rw [Function.update_self]
      refine RowAgrees.step (live.agrees _ _ replaysEarlier) ?_ valid schema requested step
      rintro t rfl
      exact replaysEarlier.wf (wf.journalOf pending.threadId)
    · have kept := journal threadId
      rw [if_neg same] at kept
      rw [kept] at replays ⊢
      rw [Function.update_of_ne (Ne.symm same)]
      exact live.agrees threadId thread replays
  · intro threadId row found
    rw [rows] at found
    by_cases same : threadId = pending.threadId
    · subst same
      rw [Function.update_self] at found
      obtain ⟨upserts, deletes⟩ := requestedChange_thread valid requested
      cases change with
      | unchanged => exact live.rows _ row found
      | upsert next =>
        cases found
        exact ⟨upserts _ rfl, changeValid⟩
      | delete previous => cases found
    · rw [Function.update_of_ne same] at found
      exact live.rows threadId row found
  · intro key
    rw [MemoryStore.commitEvent_agentLoopDue]
    exact live.due_applied valid requested key

/-- **An atomic creation keeps the rows and the due index.**  Its Thread has no
running Turn, and its row was absent. -/
theorem Created.live {s s' : MemoryStore} {threadId : ThreadId} {events : List NewStreamEvent}
    (wf : StoreWF s) (live : LiveWaits s) (created : Created s threadId events s') :
    LiveWaits s' := by
  refine ⟨?_, ?_, ?_⟩
  · intro t thread replays
    rw [created.waits]
    by_cases same : t = threadId
    · subst same
      rw [created.journal_self wf] at replays ⊢
      obtain ⟨projected, stream⟩ := created.stream
      rw [created.idle, replays.unique (stream.replays s.events.length)]
      exact rowAgrees_none (runningExecution_none (runningTurn_none stream.settled))
    · rw [created.journal_other same] at replays ⊢
      exact live.agrees t thread replays
  · intro t row found
    rw [created.waits] at found
    exact live.rows t row found
  · intro key
    rw [created.due, created.waits]
    exact live.due key

theorem StoreReachable.live (reached : StoreReachable s) : LiveWaits s := by
  induction reached with
  | empty => exact empty_live
  | step reached step live =>
    rcases step.cases_applied with ⟨_, applied⟩ | ⟨_, _, created⟩ | ⟨snapshots, rfl⟩
    · exact applied.live reached.wf live
    · exact created.live reached.wf live
    · exact ⟨live.agrees, live.rows, live.due⟩

end YHarness.State

/-
# YHarness.State.Replay -- what replaying one event does to a Thread

`ThreadStep` states, event by event, when a stored event extends a Thread and
what the Thread becomes; `applyEvent_sound` and `applyEvent_complete` say that
the fold of `apply_events` takes exactly these steps.  The Threads it reaches
are well formed (`ThreadWF`): identities do not repeat, only the last Turn can
be running, and the wait of every Turn reads back.
-/
import YHarness.Lib.Ledger
import YHarness.State.Project
import YHarness.State.Scan

namespace YHarness.State

open YHarness.Lib YHarness.Kernel

set_option autoImplicit false

/-! ## Identities and Turns -/

def threadItemIds (thread : Thread) : List ItemId :=
  thread.turns.flatMap fun turn => turn.items.map (·.id)

theorem threadItemIds_last {thread : Thread} {before : List Turn} {turn : Turn}
    (last : thread.turns = before ++ [turn]) :
    threadItemIds thread =
      (before.flatMap fun t => t.items.map (·.id)) ++ turn.items.map (·.id) := by
  simp [threadItemIds, last]

@[simp] theorem seed_turnIds (thread : Thread) :
    (Projection.seed (some thread)).turnIds = thread.turns.map (·.id) := by
  simp [Projection.seed]

@[simp] theorem seed_itemIds (thread : Thread) :
    (Projection.seed (some thread)).itemIds = threadItemIds thread := by
  simp [Projection.seed, threadItemIds]

@[simp] theorem seed_checkpointIds (thread : Thread) :
    (Projection.seed (some thread)).checkpointIds = thread.checkpoints.map (·.id) := by
  simp [Projection.seed]

/-- The Items are new to the Thread and do not repeat. -/
def NewItems (thread : Thread) (items : List Item) : Prop :=
  (items.map (·.id)).Nodup ∧ ∀ item ∈ items, item.id ∉ threadItemIds thread

variable {turnId : TurnId} {before : List Turn} {events : List StoredEvent} {turn : Turn}
  {thread : Thread} {items : List Item} {e : StoredEvent} {p p' : Projection} {threadId : ThreadId}
  {event : StateEvent}

theorem insertItemIds_eq_ok {ids ids' : List ItemId} :
    insertItemIds ids items = .ok ids' ↔
      (items.map (·.id)).Nodup ∧ (∀ item ∈ items, item.id ∉ ids) ∧
        ids' = ids ++ items.map (·.id) := by
  induction items generalizing ids with
  | nil => simp [insertItemIds, eq_comm]
  | cons item rest ih =>
    simp only [insertItemIds, seq_eq_ok, rejectIf_eq_ok, decide_eq_false_iff_not, ih,
      List.map_cons, List.nodup_cons, List.mem_cons, List.mem_append, List.mem_map,
      List.append_assoc, List.singleton_append]
    grind

theorem updateTurn_last {f : Turn → Turn} (is_new : turnId ∉ before.map (·.id))
    (same : turn.id = turnId) :
    updateTurn turnId f (before ++ [turn]) = before ++ [f turn] := by
  induction before with
  | nil => simp [updateTurn, same]
  | cons t ts ih =>
    simp only [List.map_cons, List.mem_cons, not_or] at is_new
    simp only [List.cons_append, updateTurn, if_neg (Ne.symm is_new.1), ih is_new.2]

theorem findTurn_last (is_new : turnId ∉ before.map (·.id)) (same : turn.id = turnId) :
    findTurn (before ++ [turn]) turnId = some turn := by
  have absent : before.find? (fun t => t.id == turnId) = none := find?_key_eq_none.2 is_new
  simp [findTurn, List.find?_append, absent, same]

theorem findTurn_some {turns : List Turn} (found : findTurn turns turnId = some turn) :
    turn ∈ turns ∧ turn.id = turnId := by
  refine ⟨List.mem_of_find?_eq_some found, ?_⟩
  simpa using List.find?_some found

variable [Sha256]

/-! ## Well-formed Threads -/

/-- The wait of a Turn reads back, and only a settled Turn is closed. -/
def TurnScanned (turn : Turn) : Prop :=
  ∃ cursor, scanItems turn.id turn.items = .ok cursor ∧
    (turn.status = .running → cursor.closed = false)

structure ThreadWF (thread : Thread) : Prop where
  turnsNodup : (thread.turns.map (·.id)).Nodup
  itemsNodup : (threadItemIds thread).Nodup
  runningLast : ∀ turn ∈ thread.turns.dropLast, turn.status ≠ .running
  owned : ∀ turn ∈ thread.turns, turn.threadId = thread.id
  scanned : ∀ turn ∈ thread.turns, TurnScanned turn
  receipts : ∀ turn ∈ thread.turns, turn.completionReceipt.isSome → turn.status = .completed
  checkpointsNodup : (thread.checkpoints.map (·.id)).Nodup

/-- The identity sets are those of the Thread. -/
structure SetsAgree (p : Projection) : Prop where
  turnIds : ∀ id, id ∈ p.turnIds ↔ id ∈ (Projection.seed p.thread).turnIds
  itemIds : ∀ id, id ∈ p.itemIds ↔ id ∈ (Projection.seed p.thread).itemIds
  checkpointIds : ∀ id, id ∈ p.checkpointIds ↔ id ∈ (Projection.seed p.thread).checkpointIds

structure ProjectionWF (p : Projection) : Prop extends SetsAgree p where
  thread : ∀ thread, p.thread = some thread → ThreadWF thread

theorem seed_wf {thread : Option Thread} (wf : ∀ t, thread = some t → ThreadWF t) :
    ProjectionWF (.seed thread) :=
  ⟨⟨fun _ => Iff.rfl, fun _ => Iff.rfl, fun _ => Iff.rfl⟩, wf⟩

/-- A Turn that is found running is the last Turn of its Thread. -/
theorem running_last (wf : ThreadWF thread) (found : findTurn thread.turns turnId = some turn)
    (running : turn.status = .running) :
    ∃ before, thread.turns = before ++ [turn] ∧ turn.id = turnId := by
  obtain ⟨member, same⟩ := findTurn_some found
  have nonempty : thread.turns ≠ [] := List.ne_nil_of_mem member
  have split := List.dropLast_append_getLast nonempty
  rw [← split, List.mem_append, List.mem_singleton] at member
  rcases member with earlier | last
  · exact absurd running (wf.runningLast turn earlier)
  · exact ⟨thread.turns.dropLast, by rw [last, split], same⟩

theorem ThreadWF.last_new (wf : ThreadWF thread) (last : thread.turns = before ++ [turn]) :
    turn.id ∉ before.map (·.id) := by
  have nodup := wf.turnsNodup
  rw [last, List.map_append, List.map_singleton, List.nodup_append] at nodup
  intro member
  exact nodup.2.2 turn.id member turn.id (by simp) rfl

/-- The running Turn of a well-formed Thread is its last. -/
theorem ThreadWF.find_last (wf : ThreadWF thread) (last : thread.turns = before ++ [turn]) :
    findTurn thread.turns turn.id = some turn := by
  rw [last]
  exact findTurn_last (wf.last_new last) rfl

theorem ThreadWF.update_last (wf : ThreadWF thread) (last : thread.turns = before ++ [turn])
    (f : Turn → Turn) :
    Thread.updateTurn thread turn.id f = { thread with turns := before ++ [f turn] } := by
  rw [Thread.updateTurn, last, updateTurn_last (wf.last_new last) rfl]

theorem ThreadWF.running_receipt (wf : ThreadWF thread) (last : thread.turns = before ++ [turn])
    (running : turn.status = .running) :
    turn.completionReceipt = none := by
  cases received : turn.completionReceipt with
  | none => rfl
  | some receipt =>
    have settled := wf.receipts turn (by simp [last]) (by simp [received])
    rw [running] at settled
    cases settled

/-! ## Steps -/

/-- When a stored event extends a Thread, and what the Thread becomes. -/
inductive ThreadStep (e : StoredEvent) : Option Thread → Option Thread → Prop
  | created {createdAtMs : UInt64} {tenantId : Option String}
      (is : e.event = .threadCreated createdAtMs tenantId)
      (tenant : validateTenant tenantId = .ok ()) :
      ThreadStep e none
        (some ⟨e.threadId, tenantId, none, none, none, createdAtMs, [], []⟩)
  | named {name : Option String} {thread : Thread} (is : e.event = .threadNamed name)
      (valid : validateThreadName name = .ok ()) :
      ThreadStep e (some thread) (some { thread with name })
  | forked {lineage : ThreadLineage} {thread : Thread} (is : e.event = .threadForked lineage)
      (valid : validateThreadLineage lineage = .ok ())
      (other : lineage.parentThreadId ≠ e.threadId) (fresh : isFreshThread thread = true) :
      ThreadStep e (some thread) (some { thread with lineage := some lineage })
  | imported {origin : ThreadImportOrigin} {thread : Thread}
      (is : e.event = .threadImported origin) (valid : validateThreadImportOrigin origin = .ok ())
      (fresh : isFreshThread thread = true) :
      ThreadStep e (some thread) (some { thread with importOrigin := some origin })
  | started {turnId : TurnId} {thread : Thread} (is : e.event = .turnStarted turnId)
      (is_new : turnId ∉ thread.turns.map (·.id))
      (idle : ∀ turn ∈ thread.turns, turn.status ≠ .running) :
      ThreadStep e (some thread) (some { thread with
        turns := thread.turns ++ [⟨turnId, e.threadId, .running, [], none⟩] })
  | appended {turnId : TurnId} {items : List Item} {thread : Thread} {before : List Turn}
      {turn : Turn} {cursor : ExecutionCursor}
      (carried : carriedItems e.event = some (turnId, items))
      (last : thread.turns = before ++ [turn]) (same : turn.id = turnId)
      (running : turn.status = .running) (fresh : NewItems thread items)
      (scanned : scanItems turnId (turn.items ++ items) = .ok cursor)
      (closing : cursor.closed = (closingStatus e.event).isSome)
      (settles : closingStatus e.event ≠ some .running) :
      ThreadStep e (some thread) (some { thread with
        turns := before ++ [{ turn with
          items := turn.items ++ items
          status := (closingStatus e.event).getD .running }] })
  | finished {turnId : TurnId} {status : TurnStatus} {thread : Thread} {before : List Turn}
      {turn : Turn} {cursor : ExecutionCursor} (is : e.event = .turnFinished turnId status)
      (settles : status ≠ .running) (last : thread.turns = before ++ [turn])
      (same : turn.id = turnId) (running : turn.status = .running)
      (scanned : scanItems turnId turn.items = .ok cursor)
      (idle : cursor.execution.any AgentLoopExecution.isOpen = false) :
      ThreadStep e (some thread) (some { thread with turns := before ++ [{ turn with status }] })
  | completed {turnId : TurnId} {receipt : CompletionReceipt} {thread : Thread}
      {before : List Turn} {turn : Turn} {cursor : ExecutionCursor}
      (is : e.event = .turnCompleted turnId receipt) (last : thread.turns = before ++ [turn])
      (same : turn.id = turnId) (running : turn.status = .running)
      (steered : hasPendingSteering turn = .ok false)
      (scanned : scanItems turnId turn.items = .ok cursor)
      (idle : cursor.execution.any AgentLoopExecution.isOpen = false)
      (placed : validateProjectedCompletionPlacement thread
        { turn with completionReceipt := some receipt, status := .completed } receipt = .ok ()) :
      ThreadStep e (some thread) (some { thread with
        turns := before ++ [{ turn with
          completionReceipt := some receipt, status := .completed }] })
  | checkpointed {checkpoint : Checkpoint} {thread : Thread}
      (is : e.event = .checkpointCreated checkpoint)
      (is_new : checkpoint.id ∉ thread.checkpoints.map (·.id))
      (owner : checkpoint.threadId = e.threadId)
      (earlier : checkpoint.targetSequence < e.sequence) :
      ThreadStep e (some thread)
        (some { thread with checkpoints := thread.checkpoints ++ [checkpoint] })

/-- Replace the last Turn of a well-formed Thread, keeping its identity. -/
theorem ThreadWF.replace_last {turn turn' : Turn} (wf : ThreadWF thread)
    (last : thread.turns = before ++ [turn]) (sameId : turn'.id = turn.id)
    (sameThread : turn'.threadId = turn.threadId)
    (items : (threadItemIds { thread with turns := before ++ [turn'] }).Nodup)
    (scanned : TurnScanned turn')
    (receipt : turn'.completionReceipt.isSome → turn'.status = .completed) :
    ThreadWF { thread with turns := before ++ [turn'] } where
  turnsNodup := by
    have nodup := wf.turnsNodup
    rw [last] at nodup
    simpa [sameId] using nodup
  itemsNodup := items
  runningLast := by
    have running := wf.runningLast
    rw [last, List.dropLast_concat] at running
    simpa using running
  owned := by
    have owned := wf.owned
    rw [last] at owned
    intro t member
    rcases List.mem_append.1 member with earlier | final
    · exact owned t (List.mem_append_left _ earlier)
    · rw [List.mem_singleton.1 final, sameThread]
      exact owned turn (by simp)
  scanned := by
    have before_scanned := wf.scanned
    rw [last] at before_scanned
    intro t member
    rcases List.mem_append.1 member with earlier | final
    · exact before_scanned t (List.mem_append_left _ earlier)
    · rw [List.mem_singleton.1 final]
      exact scanned
  receipts := by
    have before_receipts := wf.receipts
    rw [last] at before_receipts
    intro t member
    rcases List.mem_append.1 member with earlier | final
    · exact before_receipts t (List.mem_append_left _ earlier)
    · rw [List.mem_singleton.1 final]
      exact receipt
  checkpointsNodup := wf.checkpointsNodup

theorem newItems_nodup (wf : ThreadWF thread) (last : thread.turns = before ++ [turn])
    (fresh : NewItems thread items) :
    ((before.flatMap fun t => t.items.map (·.id)) ++
      (turn.items ++ items).map (·.id)).Nodup := by
  have nodup := wf.itemsNodup
  have absent := fresh.2
  rw [threadItemIds_last last] at nodup absent
  rw [List.map_append, ← List.append_assoc, List.nodup_append]
  refine ⟨nodup, fresh.1, ?_⟩
  rintro id member _ added rfl
  obtain ⟨item, item_member, rfl⟩ := List.mem_map.1 added
  exact absent item item_member member

/-- Every step keeps a Thread well formed. -/
theorem ThreadStep.wf {thread thread' : Option Thread} (step : ThreadStep e thread thread')
    (wf : ∀ t, thread = some t → ThreadWF t) (same : ∀ t, thread = some t → t.id = e.threadId) :
    ∀ t, thread' = some t → ThreadWF t ∧ t.id = e.threadId := by
  rintro _ rfl
  cases step with
  | created is tenant =>
    exact ⟨⟨by simp, by simp [threadItemIds], by simp, by simp, by simp, by simp, by simp⟩, rfl⟩
  | named is valid =>
    have owner := same _ rfl
    obtain ⟨a, b, c, d, f, g, h⟩ := wf _ rfl
    exact ⟨⟨a, b, c, d, f, g, h⟩, owner⟩
  | forked is valid other fresh =>
    have owner := same _ rfl
    obtain ⟨a, b, c, d, f, g, h⟩ := wf _ rfl
    exact ⟨⟨a, b, c, d, f, g, h⟩, owner⟩
  | imported is valid fresh =>
    have owner := same _ rfl
    obtain ⟨a, b, c, d, f, g, h⟩ := wf _ rfl
    exact ⟨⟨a, b, c, d, f, g, h⟩, owner⟩
  | started is is_new idle =>
    have owner := same _ rfl
    obtain ⟨a, b, c, d, f, g, h⟩ := wf _ rfl
    refine ⟨⟨?_, ?_, ?_, ?_, ?_, ?_, h⟩, owner⟩
    · simpa [List.nodup_append, a] using is_new
    · simpa [threadItemIds] using b
    · simpa using idle
    · simpa [or_imp, forall_and, owner] using d
    · intro t member
      rcases List.mem_append.1 member with earlier | final
      · exact f t earlier
      · rw [List.mem_singleton.1 final]
        exact ⟨.start, rfl, fun _ => rfl⟩
    · simpa [or_imp, forall_and] using g
  | appended carried last sameTurn running fresh scanned closing settles =>
    have owner := same _ rfl
    have wf := wf _ rfl
    refine ⟨wf.replace_last last rfl rfl ?_ ?_ ?_, owner⟩
    · simpa [threadItemIds] using newItems_nodup wf last fresh
    · subst sameTurn
      refine ⟨_, scanned, fun stays => ?_⟩
      rw [closing]
      cases closes : closingStatus e.event with
      | none => rfl
      | some status =>
        rw [closes] at stays settles
        exact absurd (congrArg some stays) settles
    · simp [wf.running_receipt last running]
  | finished is settles last sameTurn running scanned idle =>
    have owner := same _ rfl
    have wf := wf _ rfl
    refine ⟨wf.replace_last last rfl rfl ?_ ?_ ?_, owner⟩
    · simpa [threadItemIds, last] using wf.itemsNodup
    · subst sameTurn
      exact ⟨_, scanned, fun stays => absurd stays settles⟩
    · simp [wf.running_receipt last running]
  | completed is last sameTurn running steered scanned idle placed =>
    have owner := same _ rfl
    have wf := wf _ rfl
    refine ⟨wf.replace_last last rfl rfl ?_ ?_ ?_, owner⟩
    · simpa [threadItemIds, last] using wf.itemsNodup
    · subst sameTurn
      exact ⟨_, scanned, fun stays => by cases stays⟩
    · exact fun _ => rfl
  | checkpointed is is_new earlierThread earlier =>
    have owner := same _ rfl
    obtain ⟨a, b, c, d, f, g, h⟩ := wf _ rfl
    refine ⟨⟨a, b, c, d, f, g, ?_⟩, owner⟩
    simpa [List.nodup_append, h] using is_new

/-! ## The fold takes exactly these steps -/

/-- Appending Items to the running Turn, inside the fold. -/
theorem appendProjectedItems_eq_ok (wf : ProjectionWF p) :
    appendProjectedItems p turnId items = .ok p' ↔
      ∃ thread before turn, p.thread = some thread ∧ thread.turns = before ++ [turn] ∧
        turn.id = turnId ∧ turn.status = .running ∧ NewItems thread items ∧
        p' = { p with
          itemIds := p.itemIds ++ items.map (·.id)
          thread := some { thread with
            turns := before ++ [{ turn with items := turn.items ++ items }] } } := by
  simp only [appendProjectedItems, bind_eq_ok, insertItemIds_eq_ok, projectionThread,
    orError_eq_ok, rejectIf_eq_ok, bne_eq_false_iff_eq, ok_eq_ok]
  constructor
  · rintro ⟨ids, ⟨nodup, absent, rfl⟩, thread, projected, turn, found, _, running, rfl⟩
    have threadWf := wf.thread thread projected
    obtain ⟨before, last, rfl⟩ := running_last threadWf found running
    refine ⟨thread, before, turn, projected, last, rfl, running, ⟨nodup, ?_⟩, ?_⟩
    · intro item member known
      refine absent item member ((wf.itemIds item.id).2 ?_)
      rw [projected, seed_itemIds]
      exact known
    · rw [threadWf.update_last last]
  · rintro ⟨thread, before, turn, projected, last, rfl, running, ⟨nodup, absent⟩, rfl⟩
    have threadWf := wf.thread thread projected
    refine ⟨_, ⟨nodup, ?_, rfl⟩, thread, projected, turn, threadWf.find_last last, (), running, ?_⟩
    · intro item member known
      have known := (wf.itemIds item.id).1 known
      rw [projected, seed_itemIds] at known
      exact absent item member known
    · rw [threadWf.update_last last]

/-- The projection after Items were appended to the running Turn. -/
theorem agentLoopExecutionProjection_eq_ok {execution : Option AgentLoopExecution} :
    agentLoopExecutionProjection turn = .ok execution ↔
      ∃ cursor, scanItems turn.id turn.items = .ok cursor ∧ cursor.execution = execution := by
  simp only [agentLoopExecutionProjection, bind_eq_ok, Except.ok.injEq]

/-- What the fold computes for an event that carries Items: the Items join the
running Turn, its wait still reads back, and a closing event ends it. -/
def CarriedTo (p : Projection) (event : StateEvent) (turnId : TurnId) (items : List Item)
    (p' : Projection) : Prop :=
  ∃ thread before turn cursor, p.thread = some thread ∧ thread.turns = before ++ [turn] ∧
    turn.id = turnId ∧ turn.status = .running ∧ NewItems thread items ∧
    scanItems turnId (turn.items ++ items) = .ok cursor ∧
    cursor.closed = (closingStatus event).isSome ∧
    p' = { p with
      itemIds := p.itemIds ++ items.map (·.id)
      thread := some { thread with
        turns := before ++ [{ turn with
          items := turn.items ++ items
          status := (closingStatus event).getD .running }] } }

theorem projectedExecution_last {p : Projection} {ids : List ItemId} {thread : Thread}
    {message : String} (is_new : turnId ∉ before.map (·.id)) (same : turn.id = turnId) :
    projectedExecution { p with
        itemIds := ids, thread := some { thread with turns := before ++ [turn] } }
      turnId message = agentLoopExecutionProjection turn := by
  simp [projectedExecution, projectionThread, orError, findTurn_last is_new same]

/-- The step of an event whose Items carry no transition. -/
theorem appendPlain_eq_ok (wf : ProjectionWF p) (open_ : closingStatus event = none)
    (plain : ∀ item ∈ items, isTransitionKind item.kind = false) :
    appendProjectedItems p turnId items = .ok p' ↔ CarriedTo p event turnId items p' := by
  rw [appendProjectedItems_eq_ok wf]
  constructor
  · rintro ⟨thread, before, turn, projected, last, rfl, running, fresh, rfl⟩
    obtain ⟨cursor, scanned, live⟩ := (wf.thread thread projected).scanned turn (by simp [last])
    have live := live running
    exact ⟨thread, before, turn, _, projected, last, rfl, running, fresh,
      scanItems_plain scanned live plain, by simp [live, open_], by simp [open_, running]⟩
  · rintro ⟨thread, before, turn, _, projected, last, rfl, running, fresh, _, _, rfl⟩
    exact ⟨thread, before, turn, projected, last, rfl, running, fresh, by simp [open_, running]⟩

/-- The step of a wait event that leaves its Turn running. -/
theorem appendWait_eq_ok (wf : ProjectionWF p) {message : String}
    (open_ : closingStatus event = none)
    (closes : ∀ before cursor, scanItems turnId (before ++ items) = .ok cursor →
      cursor.closed = (closingStatus event).isSome) :
    (do let next ← appendProjectedItems p turnId items
        let _ ← projectedExecution next turnId message
        .ok next) = .ok p' ↔ CarriedTo p event turnId items p' := by
  simp only [bind_eq_ok, appendProjectedItems_eq_ok wf, ok_eq_ok]
  constructor
  · rintro ⟨_, ⟨thread, before, turn, projected, last, rfl, running, fresh, rfl⟩, _, read, rfl⟩
    have is_new := (wf.thread thread projected).last_new last
    simp only [projectedExecution_last is_new, agentLoopExecutionProjection_eq_ok] at read
    obtain ⟨cursor, scanned, _⟩ := read
    exact ⟨thread, before, turn, cursor, projected, last, rfl, running, fresh, scanned,
      closes _ _ scanned, by simp [open_, running]⟩
  · rintro ⟨thread, before, turn, cursor, projected, last, rfl, running, fresh, scanned, _, rfl⟩
    refine ⟨_, ⟨thread, before, turn, projected, last, rfl, running, fresh, rfl⟩,
      cursor.execution, ?_, by simp [open_, running]⟩
    have is_new := (wf.thread thread projected).last_new last
    simp only [projectedExecution_last is_new, agentLoopExecutionProjection_eq_ok]
    exact ⟨cursor, scanned, rfl⟩

/-- The step of a wait event that ends its Turn. -/
theorem appendClosing_eq_ok (wf : ProjectionWF p) {message : String} {status : TurnStatus}
    {error : HarnessError} (closing : closingStatus event = some status)
    (closes : ∀ before cursor, scanItems turnId (before ++ items) = .ok cursor →
      cursor.closed = (closingStatus event).isSome) :
    (do let next ← appendProjectedItems p turnId items
        let execution ← projectedExecution next turnId message
        rejectIf execution.isSome error
        .ok (next.setStatus turnId status)) = .ok p' ↔ CarriedTo p event turnId items p' := by
  simp only [bind_eq_ok (β := Projection), appendProjectedItems_eq_ok wf, rejectIf_eq_ok,
    Option.isSome_eq_false_iff, Option.isNone_iff_eq_none, ok_eq_ok]
  constructor
  · rintro ⟨_, ⟨thread, before, turn, projected, last, rfl, running, fresh, rfl⟩, _, read, _,
      rfl, rfl⟩
    have is_new := (wf.thread thread projected).last_new last
    simp only [projectedExecution_last is_new, agentLoopExecutionProjection_eq_ok] at read
    obtain ⟨cursor, scanned, _⟩ := read
    refine ⟨thread, before, turn, cursor, projected, last, rfl, running, fresh, scanned,
      closes _ _ scanned, ?_⟩
    simp [Projection.setStatus, Thread.updateTurn, updateTurn_last is_new, closing]
  · rintro ⟨thread, before, turn, cursor, projected, last, rfl, running, fresh, scanned, closed,
      rfl⟩
    have is_new := (wf.thread thread projected).last_new last
    refine ⟨_, ⟨thread, before, turn, projected, last, rfl, running, fresh, rfl⟩, none, ?_, (),
      rfl, ?_⟩
    · simp only [projectedExecution_last is_new, agentLoopExecutionProjection_eq_ok]
      exact ⟨cursor, scanned, scanItems_closed_execution scanned (by simp [closed, closing])⟩
    · simp [Projection.setStatus, Thread.updateTurn, updateTurn_last is_new, closing]

theorem applyEvent_carried (wf : ProjectionWF p)
    (carried : carriedItems e.event = some (turnId, items))
    (valid : validateStateEvent e.event = .ok ()) (schema : validateStoredSchema e = .ok ()) :
    applyEvent p e = .ok p' ↔ CarriedTo p e.event turnId items p' := by
  have eventSchema := validateStoredSchema_event schema
  have closes : ∀ before cursor, scanItems turnId (before ++ items) = .ok cursor →
      cursor.closed = (closingStatus e.event).isSome :=
    fun _ _ scanned => scan_carried_closed valid eventSchema carried scanned
  rw [applyEvent, schema, ok_bind]
  cases event : e.event with
  | itemAppended turn item =>
    rw [event] at carried eventSchema
    cases carried
    simp only [validateStateEventSchema, seq_eq_ok, rejectIf_eq_ok] at eventSchema
    refine appendPlain_eq_ok wf rfl fun x member => ?_
    rw [List.mem_singleton.1 member]
    exact eventSchema.2.1
  | toolCallsAppended turn calls =>
    rw [event] at carried valid
    cases carried
    exact appendPlain_eq_ok wf rfl fun x member =>
      plain_of_batched (toolCalls_eq_ok valid x member).1
  | waitStarted turn first transition =>
    rw [event] at carried closes
    cases carried
    exact appendWait_eq_ok wf rfl closes
  | acceptResume turn first transition =>
    rw [event] at carried closes
    cases carried
    exact appendWait_eq_ok wf rfl closes
  | claimReady turn transition =>
    rw [event] at carried closes
    cases carried
    exact appendWait_eq_ok wf rfl closes
  | waitClosed turn stopped transition status =>
    rw [event] at carried closes
    cases carried
    exact appendClosing_eq_ok wf rfl closes
  | denyWait turn first transition =>
    rw [event] at carried closes
    cases carried
    exact appendClosing_eq_ok wf rfl closes
  | _ => rw [event] at carried; cases carried

theorem status_settles (valid : validateStateEvent event = .ok ()) :
    closingStatus event ≠ some .running := by
  cases event with
  | waitClosed turnId stopped transition status =>
    obtain ⟨_, evidence, _, _, closes, _⟩ := waitClosed_eq_ok.1 valid
    rintro ⟨⟩
    simp [validateWaitCloseStatus] at closes
  | _ => simp [closingStatus]

theorem CarriedTo.step {p p' : Projection} {e : StoredEvent} {turnId : TurnId}
    {items : List Item} (reached : CarriedTo p e.event turnId items p')
    (carried : carriedItems e.event = some (turnId, items))
    (valid : validateStateEvent e.event = .ok ()) (agree : SetsAgree p) :
    ThreadStep e p.thread p'.thread ∧ SetsAgree p' := by
  obtain ⟨thread, before, turn, cursor, projected, last, rfl, running, fresh, scanned, closed,
    rfl⟩ := reached
  obtain ⟨turnIds, itemIds, checkpointIds⟩ := agree
  simp only [projected, seed_turnIds, seed_itemIds, seed_checkpointIds]
    at turnIds itemIds checkpointIds
  rw [projected]
  refine ⟨.appended carried last rfl running fresh scanned closed (status_settles valid),
    ⟨fun id => ?_, fun id => ?_, fun id => ?_⟩⟩
  · simp [turnIds, last]
  · simp [itemIds, threadItemIds, last, or_assoc]
  · simp [checkpointIds]

/-- A terminal event finds its Turn running and last. -/
theorem findRunning_eq_ok (wf : ThreadWF thread) :
    findTurn thread.turns turnId = some turn ∧ turn.status = .running ↔
      ∃ before, thread.turns = before ++ [turn] ∧ turn.id = turnId ∧ turn.status = .running := by
  constructor
  · rintro ⟨found, running⟩
    obtain ⟨before, last, same⟩ := running_last wf found running
    exact ⟨before, last, same, running⟩
  · rintro ⟨before, last, rfl, running⟩
    exact ⟨wf.find_last last, running⟩

/-- **Soundness.**  An event the fold accepts is a step of the Thread. -/
theorem applyEvent_sound (wf : ProjectionWF p) (valid : validateStateEvent e.event = .ok ())
    (same : ∀ t, p.thread = some t → t.id = e.threadId) (applied : applyEvent p e = .ok p') :
    ThreadStep e p.thread p'.thread ∧ ProjectionWF p' := by
  have schema : validateStoredSchema e = .ok () := by
    rw [applyEvent, seq_eq_ok] at applied
    exact applied.1
  suffices done : ThreadStep e p.thread p'.thread ∧ SetsAgree p' from
    ⟨done.1, done.2, fun t projected => (done.1.wf wf.thread same t projected).1⟩
  obtain ⟨turnIds, itemIds, checkpointIds⟩ := wf.toSetsAgree
  cases carries : carriedItems e.event with
  | some carried =>
    obtain ⟨turnId, items⟩ := carried
    exact ((applyEvent_carried wf carries valid schema).1 applied).step carries valid
      wf.toSetsAgree
  | none =>
    rw [applyEvent, schema, ok_bind] at applied
    cases event : e.event with
    | threadCreated createdAtMs tenantId =>
      rw [event] at applied
      simp only [seq_eq_ok, rejectIf_eq_ok, mapError_eq_ok, ok_eq_ok,
        Option.isSome_eq_false_iff, Option.isNone_iff_eq_none] at applied
      obtain ⟨absent, tenant, rfl⟩ := applied
      simp only [absent] at turnIds itemIds checkpointIds ⊢
      exact ⟨.created event tenant, ⟨turnIds, itemIds, checkpointIds⟩⟩
    | threadNamed name =>
      rw [event] at applied
      simp only [bind_eq_ok (α := Thread), seq_eq_ok, projectionThread, orError_eq_ok,
        ok_eq_ok] at applied
      obtain ⟨named, thread, projected, rfl⟩ := applied
      simp only [projected] at turnIds itemIds checkpointIds ⊢
      exact ⟨.named event named, ⟨turnIds, itemIds, checkpointIds⟩⟩
    | threadForked lineage =>
      rw [event] at applied
      simp only [bind_eq_ok (α := Thread), seq_eq_ok, projectionThread, orError_eq_ok,
        ok_eq_ok, rejectIf_eq_ok, beq_eq_false_iff_ne, Bool.not_eq_false'] at applied
      obtain ⟨lineageValid, other, thread, projected, fresh, rfl⟩ := applied
      simp only [projected] at turnIds itemIds checkpointIds ⊢
      exact ⟨.forked event lineageValid other fresh, ⟨turnIds, itemIds, checkpointIds⟩⟩
    | threadImported origin =>
      rw [event] at applied
      simp only [bind_eq_ok (α := Thread), seq_eq_ok, projectionThread, orError_eq_ok,
        ok_eq_ok, rejectIf_eq_ok, Bool.not_eq_false'] at applied
      obtain ⟨originValid, thread, projected, fresh, rfl⟩ := applied
      simp only [projected] at turnIds itemIds checkpointIds ⊢
      exact ⟨.imported event originValid fresh, ⟨turnIds, itemIds, checkpointIds⟩⟩
    | turnStarted turnId =>
      rw [event] at applied
      simp only [bind_eq_ok (α := Thread), seq_eq_ok, projectionThread, orError_eq_ok,
        ok_eq_ok, rejectIf_eq_ok, decide_eq_false_iff_not, List.any_eq_false,
        beq_iff_eq] at applied
      obtain ⟨is_new, thread, projected, idle, rfl⟩ := applied
      simp only [projected, seed_turnIds] at turnIds itemIds checkpointIds is_new ⊢
      refine ⟨.started event (fun known => is_new ((turnIds turnId).2 known)) idle,
        ⟨fun id => ?_, fun id => ?_, checkpointIds⟩⟩
      · simp [turnIds]
      · simp [itemIds, threadItemIds]
    | turnFinished turnId status =>
      rw [event] at applied
      simp only [bind_eq_ok (β := Projection), projectionThread, orError_eq_ok, ok_eq_ok,
        rejectIf_eq_ok, beq_eq_false_iff_ne, bne_eq_false_iff_eq,
        agentLoopExecutionProjection_eq_ok] at applied
      obtain ⟨_, settles, thread, projected, turn, found, _, running, _,
        ⟨cursor, scanned, rfl⟩, _, idle, rfl⟩ := applied
      have threadWf := wf.thread thread projected
      obtain ⟨before, last, rfl, _⟩ := (findRunning_eq_ok threadWf).1 ⟨found, running⟩
      simp only [projected, Projection.setStatus, Option.map_some, threadWf.update_last last,
        seed_turnIds, seed_itemIds, seed_checkpointIds] at turnIds itemIds checkpointIds ⊢
      refine ⟨.finished event settles last rfl running scanned idle,
        ⟨fun id => ?_, fun id => ?_, fun id => ?_⟩⟩
      · simp [turnIds, last]
      · simp [itemIds, threadItemIds, last]
      · simp [checkpointIds]
    | turnCompleted turnId receipt =>
      rw [event] at applied
      simp only [bind_eq_ok (β := Projection), projectionThread, orError_eq_ok, ok_eq_ok,
        rejectIf_eq_ok, bne_eq_false_iff_eq, agentLoopExecutionProjection_eq_ok] at applied
      obtain ⟨thread, projected, turn, found, _, running, _, steered, _, rfl, _,
        ⟨cursor, scanned, rfl⟩, _, idle, _, placed, rfl⟩ := applied
      have threadWf := wf.thread thread projected
      obtain ⟨before, last, rfl, _⟩ := (findRunning_eq_ok threadWf).1 ⟨found, running⟩
      simp only [projected, threadWf.update_last last, seed_turnIds, seed_itemIds,
        seed_checkpointIds] at turnIds itemIds checkpointIds ⊢
      refine ⟨.completed event last rfl running steered scanned idle placed,
        ⟨fun id => ?_, fun id => ?_, fun id => ?_⟩⟩
      · simp [turnIds, last]
      · simp [itemIds, threadItemIds, last]
      · simp [checkpointIds]
    | checkpointCreated checkpoint =>
      rw [event] at applied
      simp only [bind_eq_ok (α := Thread), seq_eq_ok, projectionThread, orError_eq_ok,
        ok_eq_ok, rejectIf_eq_ok, decide_eq_false_iff_not, bne_eq_false_iff_eq,
        Nat.not_le] at applied
      obtain ⟨is_new, thread, projected, owner, earlier, rfl⟩ := applied
      simp only [projected, seed_checkpointIds] at turnIds itemIds checkpointIds is_new ⊢
      refine ⟨.checkpointed event (fun known => is_new ((checkpointIds _).2 known)) owner
        earlier, ⟨turnIds, itemIds, fun id => ?_⟩⟩
      simp [checkpointIds]
    | _ => rw [event] at carries; cases carries

/-- **Completeness.**  Every step of the Thread is accepted by the fold. -/
theorem applyEvent_complete {p : Projection} (wf : ProjectionWF p)
    (valid : validateStateEvent e.event = .ok ()) (schema : validateStoredSchema e = .ok ())
    {before after : Option Thread} (projected : p.thread = before)
    (step : ThreadStep e before after) :
    ∃ p', applyEvent p e = .ok p' ∧ p'.thread = after := by
  have agree := wf.toSetsAgree
  cases step with
  | appended carried last same running fresh scanned closing settles =>
    exact ⟨_, (applyEvent_carried wf carried valid schema).2
      ⟨_, _, _, _, projected, last, same, running, fresh, scanned, closing, rfl⟩, rfl⟩
  | created is tenant =>
    rw [applyEvent, schema, ok_bind, is]
    simp [projected, tenant, Except.mapError]
  | named is named =>
    rw [applyEvent, schema, ok_bind, is]
    simp [projectionThread, projected, orError, named]
  | forked is lineageValid other fresh =>
    rw [applyEvent, schema, ok_bind, is]
    simp [projectionThread, projected, orError, lineageValid, beq_false_of_ne other, fresh]
  | imported is originValid fresh =>
    rw [applyEvent, schema, ok_bind, is]
    simp [projectionThread, projected, orError, originValid, fresh]
  | @started turnId thread is is_new idle =>
    have absent := mt (agree.turnIds _).1 (by rw [projected, seed_turnIds]; exact is_new)
    have quiet : thread.turns.any (fun turn => turn.status == .running) = false := by
      simpa using idle
    rw [applyEvent, schema, ok_bind, is]
    simp only [absent, decide_false, rejectIf_false, ok_bind, projectionThread, projected,
      orError, quiet]
    exact ⟨_, rfl, rfl⟩
  | finished is settles last same running scanned idle =>
    subst same
    have threadWf := wf.thread _ projected
    have read := agentLoopExecutionProjection_eq_ok.2 ⟨_, scanned, rfl⟩
    rw [applyEvent, schema, ok_bind, is]
    simp [projectionThread, projected, orError, beq_false_of_ne settles, threadWf.find_last last,
      running, read, idle, Projection.setStatus, threadWf.update_last last]
  | completed is last same running steered scanned idle placed =>
    subst same
    have threadWf := wf.thread _ projected
    have read := agentLoopExecutionProjection_eq_ok.2 ⟨_, scanned, rfl⟩
    rw [applyEvent, schema, ok_bind, is]
    simp [projectionThread, projected, orError, threadWf.find_last last, running, steered, read,
      idle, placed, threadWf.update_last last]
  | checkpointed is is_new owner earlier =>
    have absent := mt (agree.checkpointIds _).1
      (by rw [projected, seed_checkpointIds]; exact is_new)
    rw [applyEvent, schema, ok_bind, is]
    simp [projectionThread, projected, orError, absent, owner, Nat.not_le.2 earlier]

/-! ## Whole journals -/

/-- The events of one Thread as a store holds them: each valid on its own. -/
def JournalOf (threadId : ThreadId) (events : List StoredEvent) : Prop :=
  ∀ e ∈ events, e.threadId = threadId ∧ ∃ charge, validateStoredEvent e = .ok charge

theorem validateStoredEvent_eq_ok {charge : Nat} :
    validateStoredEvent e = .ok charge ↔
      validateStoredSchema e = .ok () ∧ validateStateId "event" e.eventId = .ok () ∧
        validateStateId "thread" e.threadId = .ok () ∧ validateStateEvent e.event = .ok () ∧
        encodeStateEvent e.event = .ok charge := by
  simp only [validateStoredEvent, seq_eq_ok]

/-- The Thread the fold over a journal ends with. -/
def ReplaysTo (events : List StoredEvent) (thread : Option Thread) : Prop :=
  ∃ p, foldEvents (.seed none) events = .ok p ∧ p.thread = thread

theorem replaysTo_nil {thread : Option Thread} : ReplaysTo [] thread ↔ thread = none := by
  constructor
  · rintro ⟨p, folded, rfl⟩
    cases folded
    rfl
  · rintro rfl
    exact ⟨_, rfl, rfl⟩

theorem foldEvents_schema {thread : Option Thread} (replays : ReplaysTo events thread) :
    ∀ e ∈ events, validateStoredSchema e = .ok () := by
  obtain ⟨p, folded, rfl⟩ := replays
  induction events using List.reverseRecOn generalizing p with
  | nil => simp
  | append_singleton events e ih =>
    obtain ⟨before, earlier, applied⟩ := foldlM_concat_eq_ok.1 folded
    rw [applyEvent, seq_eq_ok] at applied
    intro x member
    rcases List.mem_append.1 member with early | last
    · exact ih before earlier x early
    · rw [List.mem_singleton.1 last]
      exact applied.1

theorem ReplaysTo.unique {thread thread' : Option Thread} (left : ReplaysTo events thread)
    (right : ReplaysTo events thread') : thread = thread' := by
  obtain ⟨p, folded, rfl⟩ := left
  obtain ⟨p', folded', rfl⟩ := right
  rw [folded] at folded'
  cases folded'
  rfl

theorem JournalOf.init (journal : JournalOf threadId (events ++ [e])) : JournalOf threadId events :=
  fun x member => journal x (List.mem_append_left _ member)

theorem JournalOf.last {threadId : ThreadId} {events : List StoredEvent} {e : StoredEvent}
    (journal : JournalOf threadId (events ++ [e])) :
    e.threadId = threadId ∧ validateStoredSchema e = .ok () ∧
      validateStateEvent e.event = .ok () := by
  obtain ⟨same, charge, valid⟩ := journal e (by simp)
  obtain ⟨schema, _, _, event, _⟩ := validateStoredEvent_eq_ok.1 valid
  exact ⟨same, schema, event⟩

theorem foldEvents_wf {p : Projection} (journal : JournalOf threadId events)
    (folded : foldEvents (.seed none) events = .ok p) :
    ProjectionWF p ∧ ∀ t, p.thread = some t → t.id = threadId := by
  induction events using List.reverseRecOn generalizing p with
  | nil =>
    cases folded
    exact ⟨seed_wf (by simp), by simp [Projection.seed]⟩
  | append_singleton events e ih =>
    obtain ⟨before, earlier, applied⟩ := foldlM_concat_eq_ok.1 folded
    obtain ⟨wf, same⟩ := ih journal.init earlier
    obtain ⟨sameThread, _, valid⟩ := journal.last
    subst sameThread
    obtain ⟨step, wf'⟩ := applyEvent_sound wf valid same applied
    exact ⟨wf', fun t projected => (step.wf wf.thread same t projected).2⟩

theorem ReplaysTo.wf (replays : ReplaysTo events (some thread))
    (journal : JournalOf threadId events) :
    ThreadWF thread ∧ thread.id = threadId := by
  obtain ⟨p, folded, projected⟩ := replays
  obtain ⟨wf, same⟩ := foldEvents_wf journal folded
  exact ⟨wf.thread thread projected, same thread projected⟩

/-- **Replay, one event at a time.**  A journal grows by an event exactly when
that event is a step of the Thread it replays to. -/
theorem replaysTo_concat {thread' : Option Thread} (journal : JournalOf threadId (events ++ [e])) :
    ReplaysTo (events ++ [e]) thread' ↔
      ∃ thread, ReplaysTo events thread ∧ ThreadStep e thread thread' := by
  obtain ⟨sameThread, schema, valid⟩ := journal.last
  subst sameThread
  constructor
  · rintro ⟨p', folded, rfl⟩
    obtain ⟨p, earlier, applied⟩ := foldlM_concat_eq_ok.1 folded
    obtain ⟨wf, same⟩ := foldEvents_wf journal.init earlier
    exact ⟨p.thread, ⟨p, earlier, rfl⟩, (applyEvent_sound wf valid same applied).1⟩
  · rintro ⟨_, ⟨p, earlier, rfl⟩, step⟩
    obtain ⟨wf, _⟩ := foldEvents_wf journal.init earlier
    obtain ⟨p', applied, projected⟩ := applyEvent_complete wf valid schema rfl step
    exact ⟨p', foldlM_concat_eq_ok.2 ⟨p, earlier, applied⟩, projected⟩

/-- `project_events` accepts a journal that replays to a Thread whose whole
history validates. -/
theorem projectEvents_eq_ok {thread : Option Thread} :
    projectEvents events = .ok thread ↔
      ReplaysTo events thread ∧ ∀ t, thread = some t → validateHistory t = .ok () := by
  simp only [projectEvents, applyEvents, bind_eq_ok, checkSome_eq_ok, Except.ok.injEq, ReplaysTo]
  constructor
  · rintro ⟨p, folded, _, valid, rfl⟩
    exact ⟨⟨p, folded, rfl⟩, valid⟩
  · rintro ⟨⟨p, folded, rfl⟩, valid⟩
    exact ⟨p, folded, (), valid, rfl⟩

end YHarness.State

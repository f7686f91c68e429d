/-
# YHarness.State.History -- which events keep a whole history valid

`project_events` ends with validators that read the whole Thread: receipts,
execution bindings, Connector evidence, steering, Tool-call batches and durable
waits.  Here each of them is followed through one step of the Thread, and
`ThreadStep.history` says what an event must satisfy (`Admits`) for the history
it extends to stay valid.
-/
import YHarness.State.Replay

namespace YHarness.State

open YHarness.Lib YHarness.Kernel

set_option autoImplicit false

/-! ## Steering -/

def queuedIdOf (item : Item) : Option SteeringId :=
  match item.kind with
  | .steeringQueued steeringId _ _ => some steeringId
  | _ => none

/-- The steering identities queued in the Thread. -/
def threadSteeringIds (turns : List Turn) : List SteeringId :=
  turns.flatMap fun turn => turn.items.filterMap queuedIdOf

variable {items : List Item} {thread : Thread} {turn : Turn} {tenantId : Option String}
  {ids ids' : List ToolCallBatchId} {item : Item} {u : Unit} {calls : List Item}
  {s s' : SteeringState} {map map' : ProvenanceMap}

theorem validateTurnSteering_eq_ok {ids ids' : List SteeringId} :
    validateTurnSteering ids turn = .ok ids' ↔
      ∃ s, turn.items.foldlM steeringItem ⟨ids, []⟩ = .ok s ∧
        (turn.status = .completed → s.queued = []) ∧ ids' = s.allIds := by
  simp only [validateTurnSteering, bind_eq_ok (α := SteeringState), seq_eq_ok, rejectIf_eq_ok,
    Bool.and_eq_false_iff, beq_eq_false_iff_ne, Bool.not_eq_false', List.isEmpty_iff, ok_eq_ok,
    ← imp_iff_not_or]

theorem steeringItem_allIds (steered : steeringItem s item = .ok s') :
    s'.allIds = s.allIds ++ (queuedIdOf item).toList := by
  rw [steeringItem] at steered
  split at steered
  · rename_i kind
    simp only [seq_eq_ok, ok_eq_ok] at steered
    rw [steered.2]
    simp [queuedIdOf, kind]
  · rename_i kind
    split at steered
    · cases steered
    · simp only [seq_eq_ok, ok_eq_ok] at steered
      rw [steered.2.2]
      simp [queuedIdOf, kind]
  · rename_i queued _
    cases steered
    have none : queuedIdOf item = none := by
      rw [queuedIdOf]
      split
      · rename_i kind
        exact absurd kind (queued _ _ _)
      · rfl
    simp [none]

theorem steeringItems_allIds (steered : items.foldlM steeringItem s = .ok s') :
    s'.allIds = s.allIds ++ items.filterMap queuedIdOf := by
  induction items using List.reverseRecOn generalizing s' with
  | nil => cases steered; simp
  | append_singleton items item ih =>
    obtain ⟨middle, earlier, last⟩ := foldlM_concat_eq_ok.1 steered
    rw [steeringItem_allIds last, ih earlier, List.filterMap_append, List.append_assoc]
    cases queued : queuedIdOf item <;> simp [queued]

theorem steeringTurns_ids {turns : List Turn} {ids ids' : List SteeringId}
    (steered : turns.foldlM validateTurnSteering ids = .ok ids') :
    ids' = ids ++ threadSteeringIds turns := by
  induction turns using List.reverseRecOn generalizing ids' with
  | nil => cases steered; simp [threadSteeringIds]
  | append_singleton turns turn ih =>
    obtain ⟨middle, earlier, last⟩ := foldlM_concat_eq_ok.1 steered
    obtain ⟨s, items, _, rfl⟩ := validateTurnSteering_eq_ok.1 last
    rw [steeringItems_allIds items, ih earlier]
    simp [threadSteeringIds]

/-- An Item that is not steering leaves the queue as it was. -/
def isSteeringKind : ItemKind → Bool
  | .steeringQueued _ _ _ | .steeringApplied _ _ => true
  | _ => false

theorem steeringItem_plain {s : SteeringState} (plain : isSteeringKind item.kind = false) :
    steeringItem s item = .ok s := by
  obtain ⟨id, createdAtMs, kind⟩ := item
  cases kind <;> first | rfl | cases plain

theorem steeringItems_plain {s : SteeringState}
    (plain : ∀ item ∈ items, isSteeringKind item.kind = false) :
    items.foldlM steeringItem s = .ok s := by
  induction items with
  | nil => rfl
  | cons item rest ih =>
    rw [List.foldlM_cons, steeringItem_plain (plain item (by simp)), ok_bind]
    exact ih fun x member => plain x (List.mem_cons_of_mem _ member)

/-- `pending_steering` reads the queue that the history validator keeps. -/
theorem pendingItems_of_steering (seen : List SteeringId) (known : ∀ id ∈ seen, id ∈ s.allIds)
    (steered : items.foldlM steeringItem s = .ok s') :
    ∃ p, items.foldlM pendingSteeringItem ⟨s.queued, seen⟩ = .ok p ∧ p.queued = s'.queued ∧
      ∀ id ∈ p.seen, id ∈ s'.allIds := by
  induction items using List.reverseRecOn generalizing s' with
  | nil => cases steered; exact ⟨_, rfl, rfl, known⟩
  | append_singleton items item ih =>
    obtain ⟨middle, earlier, last⟩ := foldlM_concat_eq_ok.1 steered
    obtain ⟨p, pending, sameQueue, below⟩ := ih earlier
    suffices extends_ : ∃ p', pendingSteeringItem p item = .ok p' ∧ p'.queued = s'.queued ∧
        ∀ id ∈ p'.seen, id ∈ s'.allIds by
      obtain ⟨p', next, rest⟩ := extends_
      exact ⟨p', foldlM_concat_eq_ok.2 ⟨p, pending, next⟩, rest⟩
    rw [steeringItem] at last
    rw [pendingSteeringItem]
    split at last
    · simp only [seq_eq_ok, rejectIf_eq_ok, decide_eq_false_iff_not, ok_eq_ok] at last
      obtain ⟨is_new, rfl⟩ := last
      have unseen : _ ∉ p.seen := fun member => is_new (below _ member)
      simp only [unseen, decide_false, rejectIf_false, ok_bind, Except.ok.injEq,
        exists_eq_left', sameQueue, List.mem_append, List.mem_singleton, true_and]
      rintro id (member | rfl)
      · exact .inl (below id member)
      · exact .inr rfl
    · split at last
      · cases last
      · rename_i queuedId queuedContent rest queue
        simp only [seq_eq_ok, rejectIf_eq_ok, ok_eq_ok] at last
        obtain ⟨inOrder, _, rfl⟩ := last
        simp only [sameQueue, queue, inOrder, rejectIf_false, ok_bind, Except.ok.injEq,
          exists_eq_left', true_and]
        exact below
    · cases last
      exact ⟨p, rfl, sameQueue, below⟩

theorem pendingSteering_of_steering {ids : List SteeringId} {s : SteeringState}
    (steered : turn.items.foldlM steeringItem ⟨ids, []⟩ = .ok s) :
    pendingSteering turn = .ok s.queued := by
  obtain ⟨p, pending, sameQueue, _⟩ :=
    pendingItems_of_steering [] (by simp) steered
  rw [pendingSteering, pending, ok_bind, sameQueue]

/-! ## Connector evidence -/

/-- What the Items of a Turn say about each Tool call. -/
def connectorProvenance (items : List Item) : ProvenanceMap :=
  items.foldl recordConnectorExecutionProvenance ∅

theorem connectorItem_eq_ok :
    connectorItem tenantId map item = .ok map' ↔
      checkConnectorItem tenantId (recordConnectorExecutionProvenance map item) item = .ok () ∧
        map' = recordConnectorExecutionProvenance map item := by
  simp only [connectorItem, seq_eq_ok, ok_eq_ok]

theorem connectorItems_map (checked : items.foldlM (connectorItem tenantId) map = .ok map') :
    map' = items.foldl recordConnectorExecutionProvenance map := by
  induction items generalizing map with
  | nil => cases checked; rfl
  | cons item rest ih =>
    rw [List.foldlM_cons, bind_eq_ok] at checked
    obtain ⟨middle, first, later⟩ := checked
    rw [(connectorItem_eq_ok.1 first).2] at later
    exact ih later

theorem validateTurnConnectorEvidence_eq_ok :
    validateTurnConnectorEvidence tenantId turn = .ok u ↔
      turn.items.foldlM (connectorItem tenantId) ∅ = .ok (connectorProvenance turn.items) := by
  simp only [validateTurnConnectorEvidence, bind_eq_ok, and_true]
  constructor
  · rintro ⟨map, checked⟩
    rw [checked, connectorItems_map checked]
    rfl
  · exact fun checked => ⟨_, checked⟩

def carriesEvidence : ItemKind → Bool
  | .toolResult _ _ _ (_ :: _) => true
  | _ => false

/-- An Item without Connector evidence has nothing to check. -/
theorem checkConnectorItem_plain {map : ProvenanceMap} (plain : carriesEvidence item.kind = false) :
    checkConnectorItem tenantId map item = .ok () := by
  rw [checkConnectorItem]
  split
  · rename_i callId output isError evidence kind
    rw [kind] at plain
    cases evidence with
    | nil => rfl
    | cons record rest => cases plain
  · rfl

theorem connectorItems_plain {map : ProvenanceMap}
    (plain : ∀ item ∈ items, carriesEvidence item.kind = false) :
    items.foldlM (connectorItem tenantId) map =
      .ok (items.foldl recordConnectorExecutionProvenance map) := by
  induction items generalizing map with
  | nil => rfl
  | cons item rest ih =>
    have first : connectorItem tenantId map item = .ok _ :=
      connectorItem_eq_ok.2 ⟨checkConnectorItem_plain (plain item (by simp)), rfl⟩
    rw [List.foldlM_cons, first, ok_bind]
    exact ih fun x member => plain x (List.mem_cons_of_mem _ member)

/-! ## Tool-call batches -/

def batchOf (item : Item) : Option ToolCallBatch :=
  match item.kind with
  | .toolCall _ _ _ _ _ batch => batch
  | _ => none

theorem isBatchedCall_eq (item : Item) : isBatchedCall item.kind = (batchOf item).isSome := by
  obtain ⟨id, createdAtMs, kind⟩ := item
  cases kind with
  | toolCall modelId modelOrigin callId name input batch => cases batch <;> rfl
  | _ => rfl

/-- The batch identities used in the Thread. -/
def threadBatchIds (turns : List Turn) : List ToolCallBatchId :=
  turns.flatMap fun turn => turn.items.filterMap fun item => (batchOf item).map (·.id)

theorem waitEnvelopes_append (items more : List Item) :
    waitEnvelopes (items ++ more) = waitEnvelopes items ++ waitEnvelopes more := by
  simp [waitEnvelopes]

theorem isFreshThread_turns (fresh : isFreshThread thread = true) :
    thread.turns = [] := by
  simp only [isFreshThread, Bool.and_eq_true, List.isEmpty_iff] at fresh
  exact fresh.1.2

/-! ## Ordinary Items -/

/-- The kinds no history rule but the wait scan reads. -/
def isOrdinary (kind : ItemKind) : Bool :=
  !isSteeringKind kind && !carriesEvidence kind && !isBatchedCall kind &&
    match kind with
    | .executionBinding _ _ | .agentLoopWaitStarted _ => false
    | _ => true

theorem ordinary_bindings (plain : ∀ item ∈ items, isOrdinary item.kind = true) :
    items.filterMap isBindingOf = [] := by
  rw [List.filterMap_eq_nil_iff]
  intro item member
  have ordinary := plain item member
  obtain ⟨id, createdAtMs, kind⟩ := item
  cases kind with
  | executionBinding boundBy binding => cases ordinary
  | _ => rfl

theorem ordinary_envelopes (plain : ∀ item ∈ items, isOrdinary item.kind = true) :
    waitEnvelopes items = [] := by
  rw [waitEnvelopes, List.filterMap_eq_nil_iff]
  intro item member
  have ordinary := plain item member
  obtain ⟨id, createdAtMs, kind⟩ := item
  cases kind with
  | agentLoopWaitStarted envelope => cases ordinary
  | _ => rfl

variable [Sha256]

theorem validateBatchesFrom_plain {ids : List ToolCallBatchId} {rest : List Item}
    (plain : isBatchedCall item.kind = false) :
    validateBatchesFrom 0 ids (item :: rest) = validateBatchesFrom 0 ids rest := by
  obtain ⟨id, createdAtMs, kind⟩ := item
  cases kind with
  | toolCall modelId modelOrigin callId name input batch =>
    cases batch with
    | none => rfl
    | some batch => cases plain
  | _ => rfl

theorem validateBatchesFrom_batch {rest : List Item} {batch : ToolCallBatch}
    (batched : batchOf item = some batch) :
    validateBatchesFrom 0 ids (item :: rest) = .ok ids' ↔
      batch.index = 0 ∧ batch.id ∉ ids ∧ batch.size ≤ (item :: rest).length ∧
        validateToolCallBatchItems ((item :: rest).take batch.size) = .ok () ∧
        validateBatchesFrom (batch.size - 1) (ids ++ [batch.id]) rest = .ok ids' := by
  rw [batchOf] at batched
  split at batched
  · rename_i kind
    rw [validateBatchesFrom, kind, batched]
    simp only [seq_eq_ok, rejectIf_eq_ok, Bool.or_eq_false_iff, bne_eq_false_iff_eq,
      decide_eq_false_iff_not, Nat.not_lt, and_assoc]
  · cases batched

theorem validateToolCallBatchItems_size (valid : validateToolCallBatchItems calls = .ok u) :
    2 ≤ calls.length := by
  simp only [validateToolCallBatchItems, seq_eq_ok, rejectIf_eq_ok, Bool.or_eq_false_iff,
    decide_eq_false_iff_not] at valid
  omega

/-- A batch scan that ended goes on with the Items appended to it. -/
theorem validateBatchesFrom_append {items more : List Item} {skip : Nat}
    (fits : skip ≤ items.length) (scanned : validateBatchesFrom skip ids items = .ok ids') :
    validateBatchesFrom skip ids (items ++ more) = validateBatchesFrom 0 ids' more := by
  induction items generalizing skip ids with
  | nil =>
    obtain rfl : skip = 0 := by simpa using fits
    cases scanned
    rfl
  | cons item rest ih =>
    cases skip with
    | succ skip =>
      rw [List.length_cons] at fits
      rw [validateBatchesFrom] at scanned
      rw [List.cons_append, validateBatchesFrom]
      exact ih (by omega) scanned
    | zero =>
      cases batched : batchOf item with
      | none =>
        have plain : isBatchedCall item.kind = false := by rw [isBatchedCall_eq, batched]; rfl
        rw [validateBatchesFrom_plain plain] at scanned
        rw [List.cons_append, validateBatchesFrom_plain plain]
        exact ih (Nat.zero_le _) scanned
      | some batch =>
        obtain ⟨first, is_new, whole, valid, later⟩ :=
          (validateBatchesFrom_batch batched).1 scanned
        have size := validateToolCallBatchItems_size valid
        rw [List.length_take, List.length_cons] at size
        rw [List.length_cons] at whole
        have continues := ih (by omega) later
        rw [← continues]
        -- both scans read the same batch, since it ends before the new Items
        have same : (item :: (rest ++ more)).take batch.size =
            (item :: rest).take batch.size := by
          rw [← List.cons_append, List.take_append_of_le_length (by simpa using whole)]
        have fitsMore : batch.size ≤ (item :: (rest ++ more)).length := by
          simp only [List.length_cons, List.length_append]
          omega
        obtain ⟨id, createdAtMs, kind⟩ := item
        rw [List.cons_append]
        cases kind with
        | toolCall modelId modelOrigin callId name input other =>
          obtain rfl : other = some batch := batched
          simp only [validateBatchesFrom, first, is_new, Nat.not_lt.2 fitsMore, same,
            valid, bne_self_eq_false, decide_false, Bool.or_self, rejectIf_false, ok_bind]
        | _ => cases batched

/-- Every batch identity a scan collects stands on one of its Items. -/
theorem validateBatchesFrom_ids {skip : Nat}
    (scanned : validateBatchesFrom skip ids items = .ok ids') :
    ∀ id ∈ ids', id ∈ ids ∨ id ∈ items.filterMap fun item => (batchOf item).map (·.id) := by
  induction items generalizing skip ids with
  | nil =>
    cases skip <;> cases scanned <;> exact fun id member => .inl member
  | cons item rest ih =>
    have widen : ∀ id, id ∈ rest.filterMap (fun item => (batchOf item).map (·.id)) →
        id ∈ (item :: rest).filterMap (fun item => (batchOf item).map (·.id)) := by
      intro id member
      rw [List.filterMap_cons]
      split
      · exact member
      · exact List.mem_cons_of_mem _ member
    cases skip with
    | succ skip =>
      rw [validateBatchesFrom] at scanned
      exact fun id member => (ih scanned id member).imp_right (widen id)
    | zero =>
      cases batched : batchOf item with
      | none =>
        have plain : isBatchedCall item.kind = false := by rw [isBatchedCall_eq, batched]; rfl
        rw [validateBatchesFrom_plain plain] at scanned
        exact fun id member => (ih scanned id member).imp_right (widen id)
      | some batch =>
        obtain ⟨_, _, _, _, later⟩ := (validateBatchesFrom_batch batched).1 scanned
        intro id member
        rcases ih later id member with early | late
        · rcases List.mem_append.1 early with early | own
          · exact .inl early
          · rw [List.mem_singleton.1 own]
            exact .inr (by simp [batched])
        · exact .inr (widen id late)

theorem validateBatchesFrom_skip (ids : List ToolCallBatchId) (items : List Item) :
    validateBatchesFrom items.length ids items = .ok ids := by
  induction items with
  | nil => rfl
  | cons item rest ih => exact ih

theorem batchTurns_ids {turns : List Turn}
    (scanned : turns.foldlM (fun ids (turn : Turn) => validateBatchesFrom 0 ids turn.items) ids =
      .ok ids') :
    ∀ id ∈ ids', id ∈ ids ∨ id ∈ threadBatchIds turns := by
  induction turns using List.reverseRecOn generalizing ids' with
  | nil => cases scanned; exact fun id member => .inl member
  | append_singleton turns turn ih =>
    obtain ⟨middle, earlier, last⟩ := foldlM_concat_eq_ok.1 scanned
    intro id member
    rw [threadBatchIds, List.flatMap_append, List.mem_append]
    rcases validateBatchesFrom_ids last id member with early | late
    · exact (ih earlier id early).imp_right .inl
    · exact .inr (.inr (by simpa using late))

/-- The first call of an accepted batch carries its identity and size. -/
theorem validateToolCallBatchItems_head (valid : validateToolCallBatchItems calls = .ok u) :
    ∃ call rest batch, calls = call :: rest ∧ batchOf call = some batch ∧ batch.index = 0 ∧
      batch.size = calls.length := by
  have size := validateToolCallBatchItems_size valid
  cases calls with
  | nil => cases size
  | cons call rest =>
    simp only [validateToolCallBatchItems, validateBatchFrom, seq_eq_ok] at valid
    obtain ⟨_, _, _, batched⟩ := valid
    split at batched
    · rename_i batch kind
      simp only [seq_eq_ok, rejectIf_eq_ok, Bool.or_eq_false_iff, bne_eq_false_iff_eq] at batched
      obtain ⟨_, ⟨⟨⟨index, sized⟩, _⟩, _⟩, _⟩ := batched
      exact ⟨call, rest, batch, rfl, by rw [batchOf, kind], index, sized⟩
    · cases batched

/-- An accepted batch with a new identity extends the scan. -/
theorem validateBatchesFrom_calls {ids : List ToolCallBatchId}
    (valid : validateToolCallBatchItems calls = .ok u)
    (is_new : ∀ call ∈ calls, ∀ batch, batchOf call = some batch → batch.id ∉ ids) :
    ∃ ids', validateBatchesFrom 0 ids calls = .ok ids' := by
  obtain ⟨call, rest, batch, rfl, batched, first, size⟩ := validateToolCallBatchItems_head valid
  refine ⟨ids ++ [batch.id], (validateBatchesFrom_batch batched).2
    ⟨first, is_new call (by simp) batch batched, size.le, ?_, ?_⟩⟩
  · rw [size, List.take_length]
    exact valid
  · rw [size, List.length_cons, Nat.add_sub_cancel]
    exact validateBatchesFrom_skip _ rest

theorem validateBatchesFrom_plainItems {ids : List ToolCallBatchId}
    (plain : ∀ item ∈ items, isBatchedCall item.kind = false) :
    validateBatchesFrom 0 ids items = .ok ids := by
  induction items with
  | nil => rfl
  | cons item rest ih =>
    rw [validateBatchesFrom_plain (plain item (by simp))]
    exact ih fun x member => plain x (List.mem_cons_of_mem _ member)

/-! ## Durable waits -/

/-- A wait belongs to its Thread, unless the Turn was settled elsewhere and
copied. -/
def EnvelopeOf (thread : Thread) (status : TurnStatus) (envelope : TurnWaitEnvelope) : Prop :=
  envelope.tenantId = thread.tenantId ∧
    (envelope.threadId = thread.id ∨
      status ≠ .running ∧ (thread.lineage.isSome = true ∨ thread.importOrigin.isSome = true))

theorem validateTurnExecution_eq_ok :
    validateTurnExecution thread turn = .ok u ↔
      (∃ cursor, scanItems turn.id turn.items = .ok cursor) ∧
        ∀ envelope ∈ waitEnvelopes turn.items, EnvelopeOf thread turn.status envelope := by
  simp only [validateTurnExecution, bind_eq_ok (α := Option AgentLoopExecution),
    agentLoopExecutionProjection_eq_ok, checkAll_eq_ok, seq_eq_ok, rejectIf_eq_ok,
    bne_eq_false_iff_eq, Bool.and_eq_false_iff, Bool.not_eq_false', Bool.and_eq_true,
    Bool.or_eq_true, bne_iff_ne, EnvelopeOf]
  constructor
  · rintro ⟨_, ⟨cursor, scanned, _⟩, envelopes⟩
    exact ⟨⟨cursor, scanned⟩, envelopes⟩
  · rintro ⟨⟨cursor, scanned⟩, envelopes⟩
    exact ⟨_, ⟨cursor, scanned, rfl⟩, envelopes⟩

/-! ## The whole history -/

/-- The rules of one Turn that read no other Turn. -/
structure TurnValid (thread : Thread) (turn : Turn) : Prop where
  receipt : validateTurnReceipt thread turn = .ok ()
  binding : validateTurnBinding thread.tenantId turn = .ok ()
  connector : validateTurnConnectorEvidence thread.tenantId turn = .ok ()
  execution : validateTurnExecution thread turn = .ok ()

structure HistoryValid (thread : Thread) : Prop where
  turns : ∀ turn ∈ thread.turns, TurnValid thread turn
  steering : ∃ ids, thread.turns.foldlM validateTurnSteering [] = .ok ids
  batches : ∃ ids, thread.turns.foldlM
    (fun ids (turn : Turn) => validateBatchesFrom 0 ids turn.items) [] = .ok ids

theorem validateHistory_eq_ok :
    validateHistory thread = .ok u ↔ HistoryValid thread := by
  simp only [validateHistory, validateExecutionBindingProjection,
    validateConnectorEvidenceProjection, validateSteeringProjection,
    validateToolCallBatchProjection, validateAgentLoopExecutionProjection, seq_eq_ok,
    checkAll_eq_ok, bind_eq_ok (α := List String), and_true]
  constructor
  · rintro ⟨receipts, bindings, connectors, steering, batches, executions⟩
    exact ⟨fun turn member => ⟨receipts turn member, bindings turn member, connectors turn member,
      executions turn member⟩, steering, batches⟩
  · rintro ⟨turns, steering, batches⟩
    exact ⟨fun turn member => (turns turn member).receipt,
      fun turn member => (turns turn member).binding,
      fun turn member => (turns turn member).connector, steering, batches,
      fun turn member => (turns turn member).execution⟩

/-- The rules of a Turn read the identity, the tenant and the provenance of its
Thread, nothing else. -/
theorem TurnValid.congr {thread thread' : Thread} (valid : TurnValid thread turn)
    (sameId : thread'.id = thread.id) (sameTenant : thread'.tenantId = thread.tenantId)
    (sameLineage : thread'.lineage = thread.lineage)
    (sameOrigin : thread'.importOrigin = thread.importOrigin) : TurnValid thread' turn := by
  obtain ⟨id, tenantId, name, lineage, importOrigin, createdAtMs, turns, checkpoints⟩ := thread
  obtain ⟨id', tenantId', name', lineage', importOrigin', createdAtMs', turns', checkpoints'⟩ :=
    thread'
  dsimp only at sameId sameTenant sameLineage sameOrigin
  subst sameId sameTenant sameLineage sameOrigin
  exact ⟨valid.receipt, valid.binding, valid.connector, valid.execution⟩

/-- A history in which only the last Turn changes. -/
theorem HistoryValid.replace_last {before : List Turn} {turn turn' : Turn}
    (valid : HistoryValid thread) (last : thread.turns = before ++ [turn])
    (own : TurnValid thread turn → TurnValid thread turn')
    (steering : ∀ out, validateTurnSteering (threadSteeringIds before) turn = .ok out →
      ∃ out', validateTurnSteering (threadSteeringIds before) turn' = .ok out')
    (batches : ∀ ids, (∀ id ∈ ids, id ∈ threadBatchIds before) →
      ∀ out, validateBatchesFrom 0 ids turn.items = .ok out →
        ∃ out', validateBatchesFrom 0 ids turn'.items = .ok out') :
    HistoryValid { thread with turns := before ++ [turn'] } := by
  obtain ⟨turns, ⟨_, steers⟩, ⟨_, scans⟩⟩ := valid
  rw [last] at turns steers scans
  obtain ⟨ids, steersBefore, steersLast⟩ := foldlM_concat_eq_ok.1 steers
  obtain ⟨batchIds, scansBefore, scansLast⟩ := foldlM_concat_eq_ok.1 scans
  obtain rfl : ids = threadSteeringIds before := by simpa using steeringTurns_ids steersBefore
  obtain ⟨out, steersNext⟩ := steering _ steersLast
  have known : ∀ id ∈ batchIds, id ∈ threadBatchIds before :=
    fun id member => by simpa using batchTurns_ids scansBefore id member
  obtain ⟨out', scansNext⟩ := batches batchIds known _ scansLast
  refine ⟨?_, ⟨out, foldlM_concat_eq_ok.2 ⟨_, steersBefore, steersNext⟩⟩,
    ⟨out', foldlM_concat_eq_ok.2 ⟨_, scansBefore, scansNext⟩⟩⟩
  intro t member
  rcases List.mem_append.1 member with earlier | final
  · exact (turns t (List.mem_append_left _ earlier)).congr rfl rfl rfl rfl
  · rw [List.mem_singleton.1 final]
    exact (own (turns turn (by simp))).congr rfl rfl rfl rfl

/-- What the rules ask of the Items appended to a running Turn. -/
structure Extends (thread : Thread) (turn : Turn) (items : List Item) : Prop where
  bindings : items.filterMap isBindingOf = [] ∨
    ∃ binding, turn.items.filterMap isBindingOf = [] ∧
      items.filterMap isBindingOf = [binding] ∧ binding.tenantId = thread.tenantId
  connectors : ∃ map, items.foldlM (connectorItem thread.tenantId)
    (connectorProvenance turn.items) = .ok map
  steering : ∀ s : SteeringState, s.allIds = threadSteeringIds thread.turns →
    pendingSteering turn = .ok s.queued → ∃ s', items.foldlM steeringItem s = .ok s'
  batches : ∀ ids, (∀ id ∈ ids, id ∈ threadBatchIds thread.turns) →
    ∃ ids', validateBatchesFrom 0 ids items = .ok ids'
  envelopes : ∀ envelope ∈ waitEnvelopes items, EnvelopeOf thread .running envelope

theorem validateTurnBinding_append {status : TurnStatus}
    (valid : validateTurnBinding thread.tenantId turn = .ok ())
    (extends_ : Extends thread turn items) :
    validateTurnBinding thread.tenantId
      { turn with items := turn.items ++ items, status } = .ok () := by
  simp only [validateTurnBinding, List.filterMap_append] at valid ⊢
  rcases extends_.bindings with none | ⟨binding, first, only, sameTenant⟩
  · rw [none, List.append_nil]
    exact valid
  · rw [first, only]
    simp [sameTenant]

theorem validateTurnExecution_append {status : TurnStatus} {cursor : ExecutionCursor}
    (valid : validateTurnExecution thread turn = .ok ()) (running : turn.status = .running)
    (extends_ : Extends thread turn items)
    (scanned : scanItems turn.id (turn.items ++ items) = .ok cursor) :
    validateTurnExecution thread { turn with items := turn.items ++ items, status } = .ok () := by
  obtain ⟨_, envelopes⟩ := validateTurnExecution_eq_ok.1 valid
  rw [validateTurnExecution_eq_ok]
  refine ⟨⟨cursor, scanned⟩, fun envelope member => ?_⟩
  rw [waitEnvelopes_append, List.mem_append] at member
  have owned : EnvelopeOf thread .running envelope := by
    rcases member with earlier | added
    · exact running ▸ envelopes envelope earlier
    · exact extends_.envelopes envelope added
  obtain ⟨sameTenant, sameThread | inherited⟩ := owned
  · exact ⟨sameTenant, .inl sameThread⟩
  · exact absurd rfl inherited.1

/-- A history whose running Turn gets Items the rules admit. -/
theorem HistoryValid.extend {thread : Thread} {before : List Turn} {turn : Turn}
    {items : List Item} {status : TurnStatus} {cursor : ExecutionCursor}
    (valid : HistoryValid thread) (last : thread.turns = before ++ [turn])
    (running : turn.status = .running) (unreceipted : turn.completionReceipt = none)
    (extends_ : Extends thread turn items)
    (scanned : scanItems turn.id (turn.items ++ items) = .ok cursor)
    (open_ : status ≠ .completed) :
    HistoryValid { thread with
      turns := before ++ [{ turn with items := turn.items ++ items, status }] } := by
  refine valid.replace_last last (fun own => ?_) (fun out steers => ?_)
    (fun ids known out scans => ?_)
  · obtain ⟨map, checked⟩ := extends_.connectors
    refine ⟨?_, validateTurnBinding_append own.binding extends_, ?_,
      validateTurnExecution_append own.execution running extends_ scanned⟩
    · rw [validateTurnReceipt, unreceipted]
      rfl
    · have whole := foldlM_append_eq_ok.2
        ⟨_, validateTurnConnectorEvidence_eq_ok.1 own.connector, checked⟩
      rw [validateTurnConnectorEvidence_eq_ok, whole, connectorItems_map whole]
      rfl
  · obtain ⟨s, steersItems, _, _⟩ := validateTurnSteering_eq_ok.1 steers
    have queued := steeringItems_allIds steersItems
    have allIds : s.allIds = threadSteeringIds thread.turns := by
      rw [queued, last]
      simp [threadSteeringIds]
    obtain ⟨s', more⟩ := extends_.steering s allIds (pendingSteering_of_steering steersItems)
    exact ⟨s'.allIds, validateTurnSteering_eq_ok.2
      ⟨s', foldlM_append_eq_ok.2 ⟨s, steersItems, more⟩, fun completed => absurd completed open_,
        rfl⟩⟩
  · rw [validateBatchesFrom_append (Nat.zero_le _) scans]
    refine extends_.batches out fun id member => ?_
    rw [last, threadBatchIds, List.flatMap_append, List.mem_append]
    rcases validateBatchesFrom_ids scans id member with early | late
    · exact .inl (known id early)
    · exact .inr (by simpa using late)

/-! ## Which events extend a valid history -/

/-- What a single Item must satisfy. -/
def AdmitsItem (thread : Thread) (turn : Turn) (item : Item) : Prop :=
  match item.kind with
  | .executionBinding _ binding =>
    turn.items.filterMap isBindingOf = [] ∧ binding.tenantId = thread.tenantId
  | .steeringQueued steeringId _ _ => steeringId ∉ threadSteeringIds thread.turns
  | .steeringApplied steeringId content =>
    ∃ rest, pendingSteering turn = .ok ((steeringId, content) :: rest)
  | .toolResult _ _ _ _ =>
    checkConnectorItem thread.tenantId (connectorProvenance turn.items) item = .ok ()
  | _ => True

/-- What an event must satisfy to keep the history of its Thread valid. -/
def Admits (thread : Thread) : StateEvent → Prop
  | .itemAppended turnId item =>
    ∀ turn, findTurn thread.turns turnId = some turn → AdmitsItem thread turn item
  | .toolCallsAppended _ calls =>
    ∀ call ∈ calls, ∀ batch, batchOf call = some batch → batch.id ∉ threadBatchIds thread.turns
  | .waitStarted _ _ transition =>
    ∀ envelope, transition.kind = .agentLoopWaitStarted envelope →
      envelope.tenantId = thread.tenantId ∧ envelope.threadId = thread.id
  | .turnFinished _ status => status ≠ .completed
  | _ => True

theorem extends_ordinary (plain : ∀ item ∈ items, isOrdinary item.kind = true) :
    Extends thread turn items := by
  have kinds : ∀ item ∈ items, isSteeringKind item.kind = false ∧
      carriesEvidence item.kind = false ∧ isBatchedCall item.kind = false := by
    intro item member
    have ordinary := plain item member
    simp only [isOrdinary, Bool.and_eq_true, Bool.not_eq_true'] at ordinary
    exact ⟨ordinary.1.1.1, ordinary.1.1.2, ordinary.1.2⟩
  exact {
    bindings := .inl (ordinary_bindings plain)
    connectors := ⟨_, connectorItems_plain fun item member => (kinds item member).2.1⟩
    steering := fun s _ _ => ⟨s, steeringItems_plain fun item member => (kinds item member).1⟩
    batches := fun ids _ =>
      ⟨ids, validateBatchesFrom_plainItems fun item member => (kinds item member).2.2⟩
    envelopes := by simp [ordinary_envelopes plain] }

theorem extends_item (unbatched : isBatchedCall item.kind = false)
    (plain : isTransitionKind item.kind = false) (admits : AdmitsItem thread turn item) :
    Extends thread turn [item] := by
  by_cases ordinary : isOrdinary item.kind = true
  · exact extends_ordinary (by simpa using ordinary)
  · have one : ∀ {P : Item → Prop}, P item → ∀ x ∈ [item], P x := by simp
    have scans : ∀ ids, (∀ id ∈ ids, id ∈ threadBatchIds thread.turns) →
        ∃ ids', validateBatchesFrom 0 ids [item] = .ok ids' :=
      fun ids _ => ⟨ids, validateBatchesFrom_plainItems (one unbatched)⟩
    obtain ⟨id, createdAtMs, kind⟩ := item
    cases kind with
    | executionBinding boundBy binding =>
      exact {
        bindings := .inr ⟨binding, admits.1, rfl, admits.2⟩
        connectors := ⟨_, connectorItems_plain (one rfl)⟩
        steering := fun s _ _ => ⟨s, rfl⟩
        batches := scans
        envelopes := by simp [waitEnvelopes] }
    | steeringQueued steeringId submittedBy content =>
      exact {
        bindings := .inl rfl
        connectors := ⟨_, connectorItems_plain (one rfl)⟩
        steering := fun s allIds _ => by
          have is_new : steeringId ∉ s.allIds := allIds ▸ admits
          simp [steeringItem, is_new]
        batches := scans
        envelopes := by simp [waitEnvelopes] }
    | steeringApplied steeringId content =>
      exact {
        bindings := .inl rfl
        connectors := ⟨_, connectorItems_plain (one rfl)⟩
        steering := fun s _ pending => by
          obtain ⟨rest, head⟩ := admits
          rw [head, Except.ok.injEq] at pending
          simp [steeringItem, ← pending]
        batches := scans
        envelopes := by simp [waitEnvelopes] }
    | toolResult callId output isError evidence =>
      exact {
        bindings := .inl rfl
        connectors := by
          have checked : connectorItem thread.tenantId (connectorProvenance turn.items)
              ⟨id, createdAtMs, .toolResult callId output isError evidence⟩ = .ok _ :=
            connectorItem_eq_ok.2 ⟨admits, rfl⟩
          exact ⟨_, by rw [List.foldlM_cons, checked]; rfl⟩
        steering := fun s _ _ => ⟨s, rfl⟩
        batches := scans
        envelopes := by simp [waitEnvelopes] }
    | toolCall modelId modelOrigin callId name input batch =>
      cases batch with
      | none => exact absurd rfl ordinary
      | some batch => cases unbatched
    | agentLoopWaitStarted envelope => cases plain
    | _ => exact absurd rfl ordinary

theorem extends_calls (valid : validateToolCallBatchItems calls = .ok u)
    (is_new : ∀ call ∈ calls, ∀ batch, batchOf call = some batch →
      batch.id ∉ threadBatchIds thread.turns) : Extends thread turn calls := by
  have batched : ∀ call ∈ calls, isBatchedCall call.kind = true := by
    simp only [validateToolCallBatchItems, seq_eq_ok] at valid
    exact fun call member => (validateBatchFrom_calls valid.2 call member).1
  have plain : ∀ call ∈ calls, isBindingOf call = none ∧ isSteeringKind call.kind = false ∧
      carriesEvidence call.kind = false ∧ waitEnvelopes [call] = [] := by
    intro call member
    have own := batched call member
    obtain ⟨id, createdAtMs, kind⟩ := call
    cases kind with
    | toolCall modelId modelOrigin callId name input batch => exact ⟨rfl, rfl, rfl, rfl⟩
    | _ => cases own
  exact {
    bindings := .inl (List.filterMap_eq_nil_iff.2 fun call member => (plain call member).1)
    connectors := ⟨_, connectorItems_plain fun call member => (plain call member).2.2.1⟩
    steering := fun s _ _ => ⟨s, steeringItems_plain fun call member => (plain call member).2.1⟩
    batches := fun ids known => validateBatchesFrom_calls valid fun call member batch own used =>
      is_new call member batch own (known _ used)
    envelopes := by
      intro envelope member
      rw [waitEnvelopes, List.mem_filterMap] at member
      obtain ⟨call, member, found⟩ := member
      have none := (plain call member).2.2.2
      rw [waitEnvelopes, List.filterMap_cons, found] at none
      cases none }

theorem extends_waitStarted {first transition : Item} {envelope : TurnWaitEnvelope}
    (kind : transition.kind = .agentLoopWaitStarted envelope)
    (correlated : approvalRequestedMatchesEnvelope first envelope = true)
    (sameTenant : envelope.tenantId = thread.tenantId) (sameThread : envelope.threadId = thread.id) :
    Extends thread turn [first, transition] := by
  rw [approvalRequestedMatchesEnvelope, beq_iff_eq] at correlated
  obtain ⟨firstId, firstAt, firstKind⟩ := first
  obtain ⟨id, createdAtMs, transitionKind⟩ := transition
  dsimp only at kind correlated
  subst kind correlated
  exact {
    bindings := .inl rfl
    connectors := ⟨_, connectorItems_plain (by simp [carriesEvidence])⟩
    steering := fun s _ _ => ⟨s, rfl⟩
    batches := fun ids _ => ⟨ids, rfl⟩
    envelopes := by
      intro other member
      obtain rfl : other = envelope := by simpa [waitEnvelopes] using member
      exact ⟨sameTenant, .inl sameThread⟩ }

/-- The Items of an admitted event extend the history of its running Turn. -/
theorem Admits.extends {event : StateEvent} {turnId : TurnId} {version : Nat}
    (admits : Admits thread event) (valid : validateStateEvent event = .ok ())
    (schema : validateStateEventSchema event version = .ok ())
    (carried : carriedItems event = some (turnId, items))
    (found : findTurn thread.turns turnId = some turn) : Extends thread turn items := by
  cases event with
  | itemAppended id item =>
    cases carried
    simp only [validateStateEventSchema, seq_eq_ok, rejectIf_eq_ok] at schema
    exact extends_item schema.1 schema.2.1 (admits turn found)
  | toolCallsAppended id calls =>
    cases carried
    simp only [validateStateEvent, seq_eq_ok] at valid
    exact extends_calls valid.2 admits
  | waitStarted id first transition =>
    cases carried
    obtain ⟨_, envelope, kind, _, correlated⟩ := waitStarted_eq_ok.1 valid
    obtain ⟨sameTenant, sameThread⟩ := admits envelope kind
    exact extends_waitStarted kind correlated sameTenant sameThread
  | acceptResume id first transition =>
    cases carried
    obtain ⟨_, evidence, kind, correlated⟩ := acceptResume_eq_ok.1 valid
    rw [approvalDecisionMatchesResume, beq_iff_eq] at correlated
    exact extends_ordinary (by simp [kind, correlated, isOrdinary, isSteeringKind,
      carriesEvidence, isBatchedCall])
  | claimReady id transition =>
    cases carried
    obtain ⟨_, _, _, evidence, kind⟩ := claimReady_eq_ok.1 valid
    exact extends_ordinary (by simp [kind, isOrdinary, isSteeringKind, carriesEvidence,
      isBatchedCall])
  | waitClosed id stopped transition status =>
    cases carried
    obtain ⟨_, evidence, kind, _, _, correlated⟩ := waitClosed_eq_ok.1 valid
    simp only [turnStoppedMatchesClosure, Bool.and_eq_true, beq_iff_eq] at correlated
    exact extends_ordinary (by simp [kind, correlated.2, isOrdinary, isSteeringKind,
      carriesEvidence, isBatchedCall])
  | denyWait id first transition =>
    cases carried
    obtain ⟨_, evidence, kind, _, correlated⟩ := denyWait_eq_ok.1 valid
    simp only [approvalDecisionMatchesDenial, Bool.and_eq_true, beq_iff_eq] at correlated
    exact extends_ordinary (by simp [kind, correlated.1, isOrdinary, isSteeringKind,
      carriesEvidence, isBatchedCall])
  | _ => cases carried

/-- A wait event never completes its Turn. -/
theorem closingStatus_ne_completed {event : StateEvent}
    (valid : validateStateEvent event = .ok ()) :
    (closingStatus event).getD .running ≠ .completed := by
  cases event with
  | waitClosed turnId stopped transition status =>
    obtain ⟨_, evidence, _, _, closes, _⟩ := waitClosed_eq_ok.1 valid
    rintro rfl
    cases reason : evidence.reason <;> rw [reason] at closes <;> cases closes
  | _ => intro completed; cases completed

/-- A Turn without Items keeps every rule. -/
theorem HistoryValid.start {thread : Thread} (valid : HistoryValid thread) (turnId : TurnId)
    (threadId : ThreadId) :
    HistoryValid { thread with
      turns := thread.turns ++ [⟨turnId, threadId, .running, [], none⟩] } := by
  obtain ⟨turns, ⟨ids, steers⟩, ⟨batchIds, scans⟩⟩ := valid
  refine ⟨?_, ⟨ids, foldlM_concat_eq_ok.2 ⟨ids, steers, rfl⟩⟩,
    ⟨batchIds, foldlM_concat_eq_ok.2 ⟨batchIds, scans, rfl⟩⟩⟩
  intro turn member
  rcases List.mem_append.1 member with earlier | final
  · exact (turns turn earlier).congr rfl rfl rfl rfl
  · rw [List.mem_singleton.1 final]
    exact ⟨rfl, rfl, rfl, rfl⟩

/-- A settled Turn keeps every rule, and a completed one its receipt and an
empty steering queue. -/
theorem HistoryValid.settle {thread : Thread} {before : List Turn} {turn : Turn}
    {status : TurnStatus} {receipt : Option CompletionReceipt} (valid : HistoryValid thread)
    (last : thread.turns = before ++ [turn]) (running : turn.status = .running)
    (placed : validateTurnReceipt thread { turn with status, completionReceipt := receipt } = .ok ())
    (steered : status = .completed → hasPendingSteering turn = .ok false) :
    HistoryValid { thread with
      turns := before ++ [{ turn with status, completionReceipt := receipt }] } := by
  refine valid.replace_last last (fun own => ?_) (fun out steers => ?_)
    (fun _ _ out scans => ⟨out, scans⟩)
  · refine ⟨placed, own.binding, own.connector, ?_⟩
    obtain ⟨scanned, envelopes⟩ := validateTurnExecution_eq_ok.1 own.execution
    refine validateTurnExecution_eq_ok.2 ⟨scanned, fun envelope member => ?_⟩
    obtain ⟨sameTenant, sameThread | inherited⟩ := envelopes envelope member
    · exact ⟨sameTenant, .inl sameThread⟩
    · exact absurd running inherited.1
  · obtain ⟨s, steersItems, _, _⟩ := validateTurnSteering_eq_ok.1 steers
    refine ⟨s.allIds, validateTurnSteering_eq_ok.2 ⟨s, steersItems, fun completed => ?_, rfl⟩⟩
    have pending := steered completed
    rw [hasPendingSteering, pendingSteering_of_steering steersItems, ok_bind, Except.ok.injEq,
      Bool.not_eq_false', List.isEmpty_iff] at pending
    exact pending

theorem HistoryValid.untouched {thread thread' : Thread} (valid : HistoryValid thread)
    (sameTurns : thread'.turns = thread.turns) (sameId : thread'.id = thread.id)
    (sameTenant : thread'.tenantId = thread.tenantId)
    (sameLineage : thread'.lineage = thread.lineage)
    (sameOrigin : thread'.importOrigin = thread.importOrigin) : HistoryValid thread' := by
  refine ⟨fun turn member => ?_, sameTurns ▸ valid.steering, sameTurns ▸ valid.batches⟩
  rw [sameTurns] at member
  exact (valid.turns turn member).congr sameId sameTenant sameLineage sameOrigin

theorem HistoryValid.of_no_turns (empty : thread.turns = []) :
    HistoryValid thread := by
  refine ⟨fun turn member => ?_, ⟨[], by rw [empty]; rfl⟩, ⟨[], by rw [empty]; rfl⟩⟩
  rw [empty] at member
  cases member

/-- **One admitted step keeps the history valid.** -/
theorem ThreadStep.history {e : StoredEvent} {before : Option Thread} {after : Thread}
    (step : ThreadStep e before (some after)) (wf : ∀ t, before = some t → ThreadWF t)
    (valid : ∀ t, before = some t → HistoryValid t)
    (eventValid : validateStateEvent e.event = .ok ()) (schema : validateStoredSchema e = .ok ())
    (admits : ∀ t, before = some t → Admits t e.event) : HistoryValid after := by
  cases step with
  | created is tenant => exact .of_no_turns rfl
  | named is named => exact (valid _ rfl).untouched rfl rfl rfl rfl rfl
  | forked is lineageValid other fresh =>
    have empty := isFreshThread_turns fresh
    exact .of_no_turns empty
  | imported is originValid fresh =>
    have empty := isFreshThread_turns fresh
    exact .of_no_turns empty
  | started is is_new idle => exact (valid _ rfl).start _ _
  | appended carried last same running fresh scanned closing settles =>
    subst same
    have found := (wf _ rfl).find_last last
    have extends_ := (admits _ rfl).extends eventValid (validateStoredSchema_event schema)
      carried found
    refine (valid _ rfl).extend last running ((wf _ rfl).running_receipt last running) extends_
      scanned ?_
    exact closingStatus_ne_completed eventValid
  | finished is settles last same running scanned idle =>
    have own := admits _ rfl
    rw [is] at own
    have unreceipted := (wf _ rfl).running_receipt last running
    exact (valid _ rfl).settle last running (by rw [validateTurnReceipt, unreceipted]; rfl)
      fun completed => absurd completed own
  | completed is last same running steered scanned idle placed =>
    exact (valid _ rfl).settle last running placed fun _ => steered
  | checkpointed is is_new owner earlier => exact (valid _ rfl).untouched rfl rfl rfl rfl rfl

/-- **Replay of an admitted event.**  A journal that `project_events` accepts is
accepted with one more event, when that event is a step of the Thread and the
history admits it. -/
theorem projectEvents_concat {threadId : ThreadId} {events : List StoredEvent} {e : StoredEvent}
    {before : Option Thread} {after : Thread} (journal : JournalOf threadId (events ++ [e]))
    (projected : projectEvents events = .ok before) (step : ThreadStep e before (some after))
    (admits : ∀ t, before = some t → Admits t e.event) :
    projectEvents (events ++ [e]) = .ok (some after) := by
  obtain ⟨replays, valid⟩ := projectEvents_eq_ok.1 projected
  obtain ⟨_, schema, eventValid⟩ := journal.last
  refine projectEvents_eq_ok.2 ⟨(replaysTo_concat journal).2 ⟨before, replays, step⟩, ?_⟩
  rintro _ ⟨⟩
  rw [validateHistory_eq_ok]
  refine step.history (fun t same => ?_) (fun t same => ?_) eventValid schema admits
  · subst same
    exact (replays.wf journal.init).1
  · exact validateHistory_eq_ok.1 (valid t same)

end YHarness.State

/-
# YHarness.State.Reserve -- a running Turn can always be settled

Ordinary events leave the last event slot and the last mebibyte of a Thread
free; only an event that settles its Turn may use them.  In every reachable
journal with a running Turn the reserve is therefore still whole
(`StoreReachable.budget`), and it is large enough for the settlement that the
phase of the Turn asks for (`running_turn_settles`): a finish, a closure of the
open wait, or the denial that carries the accepted Approval settlement.
-/
import YHarness.State.History
import YHarness.State.Sqlite
import YHarness.Kernel.Sizes

namespace YHarness.State

open YHarness.Lib YHarness.Kernel

set_option autoImplicit false

/-! ## Encoded sizes -/

theorem stateId_len {kind value : String} (valid : validateStateId kind value = .ok ()) :
    stringLen value ≤ 514 := by
  simp only [validateStateId, rejectIf_eq_ok, Bool.or_eq_false_iff, decide_eq_false_iff_not,
    Nat.not_lt] at valid
  have plain := stringLen_le_of_noControl valid.2
  omega

theorem stateId_kind {kind other value : String} (valid : validateStateId kind value = .ok ()) :
    validateStateId other value = .ok () := by
  simp only [validateStateId, rejectIf_eq_ok] at valid ⊢
  exact valid

theorem status_len (status : TurnStatus) : status.toJson.encodedLen ≤ 16 := by
  cases status <;> simp only [TurnStatus.toJson, Json.encodedLen] <;> decide

theorem stopReason_len (reason : TurnStopReason) : reason.toJson.encodedLen ≤ 16 := by
  cases reason <;> simp only [TurnStopReason.toJson, Json.encodedLen] <;> decide

theorem turnFinished_len {turnId : TurnId} (turn : stringLen turnId ≤ 514)
    (status : TurnStatus) : (StateEvent.turnFinished turnId status).toJson.encodedLen ≤ 1024 := by
  have keys : ∀ key ∈ ["type", "turn_finished", "turn_id", "status"], stringLen key ≤ 16 := by
    decide
  simp only [List.forall_mem_cons] at keys
  have statusLen := status_len status
  simp only [StateEvent.toJson, StateEvent.fields, Json.encodedLen, fieldsLen, List.length_cons,
    List.length_nil]
  omega

theorem waitClosed_len {turnId : TurnId} {stopped transition : Item} {status : TurnStatus}
    {evidence : WaitClosureEvidence} (turn : stringLen turnId ≤ 514)
    (stoppedId : stringLen stopped.id ≤ 514) (transitionId : stringLen transition.id ≤ 514)
    (stoppedKind : stopped.kind = .turnStopped evidence.reason .approval)
    (transitionKind : transition.kind = .agentLoopWaitClosed evidence)
    (waitId : stringLen evidence.waitId ≤ 514) (commandId : stringLen evidence.commandId ≤ 514)
    (digest : stringLen evidence.commandSha256 = 66) :
    (StateEvent.waitClosed turnId stopped transition status).toJson.encodedLen ≤ 8192 := by
  have keys : ∀ key ∈ ["type", "wait_closed", "turn_id", "stopped", "transition", "status", "id",
      "created_at_ms", "turn_stopped", "reason", "phase", "approval", "agent_loop_wait_closed",
      "evidence", "wait_id", "previous_revision", "revision", "command_id", "command_sha256",
      "closed_at_ms"], stringLen key ≤ 32 := by decide
  simp only [List.forall_mem_cons] at keys
  have statusLen := status_len status
  have ownStatusLen := status_len evidence.status
  have reasonLen := stopReason_len evidence.reason
  have stoppedAt := jsonU64_len stopped.createdAtMs
  have transitionAt := jsonU64_len transition.createdAtMs
  have previous := jsonU64_len evidence.previousRevision
  have next := jsonU64_len evidence.revision
  have closedAt := jsonU64_len evidence.closedAtMs
  simp only [StateEvent.toJson, StateEvent.fields, Item.toJson, stoppedKind, transitionKind,
    ItemKind.fields, WaitClosureEvidence.toJson, ExecutionPhase.toJson, Json.encodedLen, fieldsLen,
    List.length_cons, List.length_nil, List.cons_append, List.nil_append]
  omega

/-- The sizes a settlement that State admits is bounded by. -/
theorem settlement_len {settlement : ApprovalSettlementEvidence}
    (valid : validateApprovalSettlementShape settlement = .ok ()) :
    settlement.toJson.encodedLen ≤ maxApprovalRecordBytes ∧
      stringLen settlement.request.id ≤ 514 ∧
      stringLen settlement.request.authorization.callId ≤ 514 ∧
      settlement.decision.toJson.encodedLen ≤ 8300 := by
  simp only [validateApprovalSettlementShape, validateApprovalRequestShape,
    bind_eq_ok (α := Nat), seq_eq_ok, mapError_eq_ok, boundedSerializedSize_eq_ok] at valid
  obtain ⟨_, ⟨sized, _⟩, ⟨requestId, _, _, _, callId, _⟩, _, _, _, decision⟩ := valid
  refine ⟨sized, stateId_len requestId, stateId_len callId, ?_⟩
  have keys : ∀ key ∈ ["action", "approve", "deny", "reason"], stringLen key ≤ 16 := by
    decide
  simp only [List.forall_mem_cons] at keys
  split at decision
  · rename_i approved
    rw [approved]
    simp only [ApprovalDecision.toJson, Json.encodedLen, fieldsLen, List.length_cons,
      List.length_nil]
    omega
  · rename_i reason denied
    simp only [rejectIf_eq_ok, Bool.or_eq_false_iff, decide_eq_false_iff_not, Nat.not_lt] at decision
    obtain ⟨⟨_, short⟩, plain⟩ := decision
    have reasonLen := stringLen_le_of_noControl plain
    rw [denied]
    simp only [ApprovalDecision.toJson, Json.encodedLen, fieldsLen, List.length_cons,
      List.length_nil]
    omega

theorem denialEvidence_len {evidence : WaitDenialEvidence}
    (waitId : stringLen evidence.waitId ≤ 514) (commandId : stringLen evidence.commandId ≤ 514)
    (digest : stringLen evidence.commandSha256 = 66) :
    evidence.toJson.encodedLen ≤ evidence.settlement.toJson.encodedLen + 2048 := by
  have keys : ∀ key ∈ ["wait_id", "previous_revision", "revision", "command_id",
      "command_sha256", "settlement", "denied_at_ms"], stringLen key ≤ 32 := by decide
  simp only [List.forall_mem_cons] at keys
  have previous := jsonU64_len evidence.previousRevision
  have next := jsonU64_len evidence.revision
  have deniedAt := jsonU64_len evidence.deniedAtMs
  simp only [WaitDenialEvidence.toJson, Json.encodedLen, fieldsLen, List.length_cons,
    List.length_nil]
  omega

theorem denyWait_len {turnId : TurnId} {first transition : Item} {evidence : WaitDenialEvidence}
    (turn : stringLen turnId ≤ 514) (firstId : stringLen first.id ≤ 514)
    (transitionId : stringLen transition.id ≤ 514)
    (firstKind : first.kind = .approvalDecision evidence.settlement.request.id
      evidence.settlement.request.authorization.callId evidence.settlement.decision)
    (transitionKind : transition.kind = .agentLoopWaitDenied evidence)
    (waitId : stringLen evidence.waitId ≤ 514) (commandId : stringLen evidence.commandId ≤ 514)
    (digest : stringLen evidence.commandSha256 = 66)
    (settles : validateApprovalSettlementShape evidence.settlement = .ok ()) :
    (StateEvent.denyWait turnId first transition).toJson.encodedLen ≤
      evidence.settlement.toJson.encodedLen + 16384 := by
  have keys : ∀ key ∈ ["type", "deny_wait", "turn_id", "approval_decision", "transition", "id",
      "created_at_ms", "approval_id", "call_id", "decision", "agent_loop_wait_denied",
      "evidence"], stringLen key ≤ 32 := by decide
  simp only [List.forall_mem_cons] at keys
  obtain ⟨_, requestLen, callLen, decisionLen⟩ := settlement_len settles
  have evidenceLen := denialEvidence_len waitId commandId digest
  have firstAt := jsonU64_len first.createdAtMs
  have transitionAt := jsonU64_len transition.createdAtMs
  simp only [StateEvent.toJson, StateEvent.fields, Item.toJson, firstKind, transitionKind,
    ItemKind.fields, Json.encodedLen, fieldsLen, List.length_cons, List.length_nil,
    List.cons_append, List.nil_append]
  omega

theorem encodeStateEvent_terminal {event : StateEvent} (terminal : event.isTerminal = true)
    (size : recoveryCharge event ≤ stateTerminalRecoveryByteReserve) :
    encodeStateEvent event = .ok (recoveryCharge event) := by
  have unshaped : shapedItems event = [] := by cases event <;> first | rfl | cases terminal
  have bounded : event.toJson.encodedLen ≤ maxStateEventBytes := by
    simp only [recoveryCharge, stateTerminalRecoveryByteReserve] at size
    simp only [maxStateEventBytes]
    omega
  simp only [encodeStateEvent, validateStateEventJsonShape, unshaped, checkAll, ok_bind,
    bind_eq_ok (α := Nat), mapError_eq_ok, boundedSerializedSize_eq_ok]
  exact ⟨_, ⟨bounded, rfl⟩, trivial⟩

/-! ## Fresh identities -/

theorem spelledId_valid {n : Nat} (kind : String) (bits : Fin n → Bool) (some_ : 0 < n)
    (short : n ≤ 256) : validateStateId kind (spelledId bits) = .ok () := by
  have size := spelledId_size bits
  have nonempty : (spelledId bits).isEmpty = false := by
    rw [Bool.eq_false_iff]
    intro empty
    rw [String.isEmpty_iff_utf8ByteSize_eq_zero, size] at empty
    omega
  simp [validateStateId, nonempty, size, spelledId_plain bits, short]

/-- There are more admissible identities than a Thread can use. -/
theorem exists_fresh_id {used : List String} (few : used.length < 2 ^ 40) :
    ∃ id, validateStateId "item" id = .ok () ∧ id ∉ used := by
  obtain ⟨bits, unused⟩ := exists_fresh_spelling few
  exact ⟨_, spelledId_valid "item" bits (by omega) (by omega), unused⟩

variable {thread : Thread}

/-- Two fresh identities for the Items of a settlement. -/
theorem exists_fresh_pair (few : (threadItemIds thread).length < 2 ^ 40 - 1) :
    ∃ first second, validateStateId "item" first = .ok () ∧ validateStateId "item" second = .ok () ∧
      first ≠ second ∧ first ∉ threadItemIds thread ∧ second ∉ threadItemIds thread := by
  obtain ⟨first, firstValid, firstNew⟩ := @exists_fresh_id (threadItemIds thread) (by omega)
  obtain ⟨second, secondValid, secondNew⟩ := @exists_fresh_id (first :: threadItemIds thread)
    (by rw [List.length_cons]; omega)
  rw [List.mem_cons, not_or] at secondNew
  exact ⟨first, second, firstValid, secondValid, Ne.symm secondNew.1, firstNew, secondNew.2⟩

theorem newItems_pair {first second : Item} (distinct : first.id ≠ second.id)
    (firstNew : first.id ∉ threadItemIds thread) (secondNew : second.id ∉ threadItemIds thread) :
    NewItems thread [first, second] := by
  refine ⟨by simpa using distinct, ?_⟩
  simp only [List.mem_cons, List.not_mem_nil, or_false]
  rintro item (rfl | rfl)
  · exact firstNew
  · exact secondNew

theorem threadItemIds_replace_last {before : List Turn} {turn : Turn} (turn' : Turn)
    (last : thread.turns = before ++ [turn]) :
    (threadItemIds { thread with turns := before ++ [turn'] }).length + turn.items.length =
      (threadItemIds thread).length + turn'.items.length := by
  rw [threadItemIds_last last, @threadItemIds_last _ before turn' rfl]
  simp only [List.length_append, List.length_map]
  omega

/-! ## Command digests -/

section Settling

variable [Sha256]

theorem stateEvidenceSha256_ok {domain : String} {value : Json}
    (fits : (Json.arr [.str domain, value]).encodedLen ≤ maxStateEventBytes) :
    ∃ digest, stateEvidenceSha256 domain value = .ok digest ∧ isLowerSha256 digest = true := by
  refine ⟨_, ?_, Sha256.digest_lower (.json (.arr [.str domain, value]))⟩
  rw [stateEvidenceSha256, mapError_eq_ok, boundedSerializedSha256, bind_eq_ok]
  exact ⟨_, boundedSerializedSize_eq_ok.2 ⟨fits, rfl⟩, rfl⟩

/-- The digest of a closure command exists: all its coordinates are bounded. -/
theorem waitCloseCommandSha256_ok {threadId : ThreadId} {turnId : TurnId}
    {command : AgentLoopWaitCloseCommand} {authority : AuthorityContext}
    (thread : stringLen threadId ≤ 514) (turn : stringLen turnId ≤ 514)
    (waitId : stringLen command.waitId ≤ 514) (commandId : stringLen command.commandId ≤ 514)
    (authorized : authority.toJson.encodedLen ≤ 1600) :
    ∃ digest, waitCloseCommandSha256 threadId turnId command authority = .ok digest ∧
      isLowerSha256 digest = true := by
  refine stateEvidenceSha256_ok ?_
  have domain : stringLen "y-harness.agent-loop.wait-close-command.v1" ≤ 64 := by decide
  have statusLen := status_len command.status
  have reasonLen := stopReason_len command.reason
  have revisionLen := jsonU64_len command.expectedRevision
  simp only [Json.encodedLen, valuesLen, List.length_cons, List.length_nil, maxStateEventBytes]
  omega

theorem waitDenialCommandSha256_ok {threadId : ThreadId} {turnId : TurnId}
    {waitId : AgentLoopWaitId} {expectedRevision : UInt64} {commandId : AgentLoopDenyCommandId}
    {settlement : ApprovalSettlementEvidence} {authority : AuthorityContext}
    (thread : stringLen threadId ≤ 514) (turn : stringLen turnId ≤ 514)
    (wait : stringLen waitId ≤ 514) (command : stringLen commandId ≤ 514)
    (settles : settlement.toJson.encodedLen ≤ maxApprovalRecordBytes)
    (authorized : authority.toJson.encodedLen ≤ 1600) :
    ∃ digest, waitDenialCommandSha256 threadId turnId waitId expectedRevision commandId settlement
        authority = .ok digest ∧ isLowerSha256 digest = true := by
  refine stateEvidenceSha256_ok ?_
  have domain : stringLen "y-harness.agent-loop.wait-denial-command.v1" ≤ 64 := by decide
  have revisionLen := jsonU64_len expectedRevision
  rw [maxApprovalRecordBytes] at settles
  simp only [Json.encodedLen, valuesLen, List.length_cons, List.length_nil, maxStateEventBytes]
  omega

/-! ## The number of Items -/

theorem carriedItems_length {event : StateEvent} {turnId : TurnId} {items : List Item}
    (valid : validateStateEvent event = .ok ())
    (carried : carriedItems event = some (turnId, items)) :
    items.length ≤ maxToolCallsPerBatch := by
  cases event with
  | toolCallsAppended id calls =>
    cases carried
    simp only [validateStateEvent, validateToolCallBatchItems, seq_eq_ok, rejectIf_eq_ok,
      Bool.or_eq_false_iff, decide_eq_false_iff_not, Nat.not_lt] at valid
    exact valid.2.1.2
  | itemAppended id item => cases carried; simp [maxToolCallsPerBatch]
  | waitStarted id first transition => cases carried; simp [maxToolCallsPerBatch]
  | acceptResume id first transition => cases carried; simp [maxToolCallsPerBatch]
  | claimReady id transition => cases carried; simp [maxToolCallsPerBatch]
  | waitClosed id stopped transition status => cases carried; simp [maxToolCallsPerBatch]
  | denyWait id first transition => cases carried; simp [maxToolCallsPerBatch]
  | _ => cases carried

theorem ThreadStep.items_length {e : StoredEvent} {before : Option Thread} {after : Thread}
    (step : ThreadStep e before (some after)) (valid : validateStateEvent e.event = .ok ()) :
    (threadItemIds after).length ≤
      (before.map fun t => (threadItemIds t).length).getD 0 + maxToolCallsPerBatch := by
  cases step with
  | appended carried last same running fresh scanned closing settles =>
    have few := carriedItems_length valid carried
    rw [Option.map_some, Option.getD_some]
    refine Nat.le_of_add_le_add_right
      (Nat.le_trans (Nat.le_of_eq (threadItemIds_replace_last _ last)) ?_)
    rw [List.length_append]
    omega
  | finished is settles last same running scanned idle =>
    rw [Option.map_some, Option.getD_some]
    refine Nat.le_of_add_le_add_right
      (Nat.le_trans (Nat.le_of_eq (threadItemIds_replace_last _ last)) ?_)
    dsimp only
    omega
  | completed is last same running steered scanned idle placed =>
    rw [Option.map_some, Option.getD_some]
    refine Nat.le_of_add_le_add_right
      (Nat.le_trans (Nat.le_of_eq (threadItemIds_replace_last _ last)) ?_)
    dsimp only
    omega
  | _ => simp [threadItemIds]

variable {thread : Thread} {cursor : ExecutionCursor} {turn : Turn} {before : List Turn}
  {envelope : TurnWaitEnvelope} {events : List StoredEvent} {threadId : ThreadId}

/-- A journal brings at most one batch of Items with each event. -/
theorem ReplaysTo.items_length (journal : JournalOf threadId events)
    (replays : ReplaysTo events (some thread)) :
    (threadItemIds thread).length ≤ maxToolCallsPerBatch * events.length := by
  induction events using List.reverseRecOn generalizing thread with
  | nil => cases replaysTo_nil.1 replays
  | append_singleton events e ih =>
    obtain ⟨before, earlier, step⟩ := (replaysTo_concat journal).1 replays
    have grown := step.items_length journal.last.2.2
    rw [List.length_append, List.length_singleton, Nat.mul_add, Nat.mul_one]
    cases before with
    | none =>
      rw [Option.map_none, Option.getD_none] at grown
      omega
    | some t =>
      have earlierFew := ih journal.init earlier
      rw [Option.map_some, Option.getD_some] at grown
      omega

/-- Every Turn of a journal was started under an admissible identity. -/
theorem ReplaysTo.turnIds (journal : JournalOf threadId events)
    (replays : ReplaysTo events (some thread)) :
    ∀ turn ∈ thread.turns, validateStateId "turn" turn.id = .ok () := by
  induction events using List.reverseRecOn generalizing thread with
  | nil => cases replaysTo_nil.1 replays
  | append_singleton events e ih =>
    obtain ⟨before, earlier, step⟩ := (replaysTo_concat journal).1 replays
    have valid := journal.last.2.2
    have replaced : ∀ {t : Thread} {initial : List Turn} {turn turn' : Turn},
        ReplaysTo events (some t) → t.turns = initial ++ [turn] → turn'.id = turn.id →
        ∀ x ∈ initial ++ [turn'], validateStateId "turn" x.id = .ok () := by
      intro t initial turn turn' earlier last same x member
      have own := ih journal.init earlier
      rw [last] at own
      rcases List.mem_append.1 member with early | final
      · exact own x (List.mem_append_left _ early)
      · rw [List.mem_singleton.1 final, same]
        exact own turn (by simp)
    cases step with
    | created is tenant => simp
    | started is is_new idle =>
      rw [is, validateStateEvent] at valid
      intro turn member
      rcases List.mem_append.1 member with early | final
      · exact ih journal.init earlier turn early
      · rw [List.mem_singleton.1 final]
        exact valid
    | appended carried last same running fresh scanned closing settles =>
      exact replaced earlier last rfl
    | finished is settles last same running scanned idle => exact replaced earlier last rfl
    | completed is last same running steered scanned idle placed =>
      exact replaced earlier last rfl
    | _ =>
      have own := ih journal.init earlier
      exact own

/-! ## The reserve -/

/-- Neither the last event slot nor the last mebibyte is used. -/
structure ReserveWhole (events : List StoredEvent) : Prop where
  slot : events.length < stateThreadEventLimit
  bytes : journalCharge events ≤ stateThreadRecoveryByteLimit - stateTerminalRecoveryByteReserve

/-- Only an event that settles a Turn enters the reserve. -/
def Budgeted (events : List StoredEvent) : Prop :=
  (∃ e, events.getLast? = some e ∧ e.event.isTerminal = true) ∨ ReserveWhole events

theorem Applied.budget {s s' : MemoryStore} {pending : PendingEvent} (wf : StoreWF s)
    (applied : Applied s pending s') (threadId : ThreadId)
    (budget : Budgeted (s.journal threadId)) : Budgeted (s'.journal threadId) := by
  rw [applied.journal]
  split
  · rename_i same
    subst same
    cases terminal : pending.event.isTerminal with
    | true => exact .inl ⟨s.nextStored pending, by simp, terminal⟩
    | false =>
      obtain ⟨_, _, _, reserve, _, _, _, _, bytes⟩ :=
        validatePendingEvent_eq_ok.1 applied.pendingValid
      rw [← applied.version, wf.versions, terminal] at reserve
      rw [← applied.bytes, wf.charges, terminal] at bytes
      refine .inr ⟨?_, ?_⟩
      · simp only [reduceCtorEq, or_false, stateThreadEventLimit,
          stateTerminalEventReserve] at reserve
        rw [List.length_append, List.length_singleton, stateThreadEventLimit]
        omega
      · simpa [journalCharge, MemoryStore.nextStored] using bytes
  · exact budget

theorem Created.budget {s s' : MemoryStore} {created : ThreadId} {events : List NewStreamEvent}
    (wf : StoreWF s) (creates : Created s created events s') (threadId : ThreadId)
    (budget : Budgeted (s.journal threadId)) : Budgeted (s'.journal threadId) := by
  by_cases same : threadId = created
  · subst same
    obtain ⟨thread, stream⟩ := creates.stream
    have short := stream.short
    rw [creates.journal_self wf]
    refine .inr ⟨?_, ?_⟩
    · rw [numberNewEvents_length]
      simp only [stateThreadEventLimit, stateTerminalEventReserve] at short ⊢
      omega
    · rw [numberNewEvents_charge]
      exact stream.light
  · rw [creates.journal_other same]
    exact budget

/-- **The reserve of every reachable journal is whole, or was used to settle.** -/
theorem StoreReachable.budget {s : MemoryStore} (reached : StoreReachable s)
    (threadId : ThreadId) : Budgeted (s.journal threadId) := by
  induction reached with
  | empty =>
    exact .inr ⟨by simp [MemoryStore.empty, MemoryStore.journal, stateThreadEventLimit],
      by simp [MemoryStore.empty, MemoryStore.journal, journalCharge]⟩
  | step earlier step budget =>
    rcases step.cases_applied with ⟨_, applied⟩ | ⟨_, _, created⟩ | ⟨snapshots, rfl⟩
    · exact applied.budget earlier.wf threadId budget
    · exact created.budget earlier.wf threadId budget
    · exact budget

/-- No Turn runs after an event that settles one. -/
theorem ThreadStep.terminal_idle {e : StoredEvent} {before : Option Thread} {after : Thread}
    (step : ThreadStep e before (some after)) (wf : ∀ t, before = some t → ThreadWF t)
    (terminal : e.event.isTerminal = true) : runningTurn after = none := by
  have settled : ∀ {t : Thread} {initial : List Turn} {turn turn' : Turn}, ThreadWF t →
      t.turns = initial ++ [turn] → turn'.status ≠ .running →
      runningTurn { t with turns := initial ++ [turn'] } = none := by
    intro t initial turn turn' wf last settles
    rw [runningTurn_last rfl (wf.idle_before last), if_neg settles]
  cases step with
  | appended carried last same running fresh scanned closing settles =>
    refine settled (wf _ rfl) last ?_
    cases event : e.event with
    | waitClosed turnId stopped transition status =>
      rw [event] at settles
      simpa [closingStatus] using settles
    | denyWait turnId first transition => simp [closingStatus]
    | turnFinished turnId status => rw [event] at carried; cases carried
    | turnCompleted turnId receipt => rw [event] at carried; cases carried
    | _ => rw [event] at terminal; cases terminal
  | finished is settles last same running scanned idle => exact settled (wf _ rfl) last settles
  | completed is last same running steered scanned idle placed =>
    exact settled (wf _ rfl) last (by simp)
  | created is => rw [is] at terminal; cases terminal
  | named is => rw [is] at terminal; cases terminal
  | forked is => rw [is] at terminal; cases terminal
  | imported is => rw [is] at terminal; cases terminal
  | started is => rw [is] at terminal; cases terminal
  | checkpointed is => rw [is] at terminal; cases terminal

/-- While a Turn runs, the reserve is whole. -/
theorem reserve_of_running (budget : Budgeted events) (journal : JournalOf threadId events)
    (replays : ReplaysTo events (some thread)) (running : runningTurn thread = some turn) :
    ReserveWhole events := by
  rcases budget with ⟨e, last, terminal⟩ | whole
  · obtain ⟨initial, rfl⟩ := List.getLast?_eq_some_iff.1 last
    obtain ⟨before, earlier, step⟩ := (replaysTo_concat journal).1 replays
    have idle := step.terminal_idle
      (fun t same => by subst same; exact (earlier.wf journal.init).1) terminal
    rw [idle] at running
    cases running
  · exact whole

/-! ## Settling the running Turn -/

/-- An event that settles the Thread's running Turn and fits the reserve. -/
structure Settlement (thread : Thread) (event : StateEvent) : Prop where
  terminal : event.isTerminal = true
  valid : validateStateEvent event = .ok ()
  schema : validateStateEventSchema event stateEventSchemaVersion = .ok ()
  size : recoveryCharge event ≤ stateTerminalRecoveryByteReserve
  steps : ∀ e : StoredEvent, e.event = event →
    ∃ after, ThreadStep e (some thread) (some after)
  admits : Admits thread event

/-- A Turn without an open wait finishes. -/
theorem finish_settles (last : thread.turns = before ++ [turn]) (running : turn.status = .running)
    (turnId : validateStateId "turn" turn.id = .ok ())
    (scanned : scanItems turn.id turn.items = .ok cursor)
    (idle : cursor.execution.any AgentLoopExecution.isOpen = false) :
    Settlement thread (.turnFinished turn.id .interrupted) where
  terminal := rfl
  valid := turnId
  schema := rfl
  size := by
    have small := turnFinished_len (stateId_len turnId) .interrupted
    simp only [recoveryCharge, stateEventRecoveryOverheadBytes, stateTerminalRecoveryByteReserve]
    omega
  steps := fun e is => ⟨_, .finished is (by simp) last rfl running scanned idle⟩
  admits := by simp [Admits]

/-- The revision and the time of an open wait leave room for one more
transition. -/
theorem openAt_next {turnId : TurnId} {admits : ResumeEvidence → Prop}
    {execution : Option AgentLoopExecution} {revision atMs : UInt64}
    (valid : ∀ x, execution = some x → ExecutionValid turnId x)
    (phase : OpenAt admits execution envelope revision atMs) :
    EnvelopeValid envelope ∧ envelope.turnId = turnId ∧ revision ≠ 0 ∧
      checkedSucc revision = some (revision + 1) ∧ envelope.serverStartedAtMs ≤ atMs ∧
      atMs ≠ 0 := by
  rcases phase with ⟨waiting, rfl, rfl⟩ | ⟨resume, ready, _, rfl, rfl⟩
  · obtain ⟨checked, same, _⟩ := valid _ waiting
    have coordinates : EnvelopeValid envelope := validateWaitEnvelope_valid checked
    refine ⟨coordinates, same, ?_, ?_, UInt64.le_refl _, coordinates.started⟩
    · rw [coordinates.revision]; decide
    · rw [coordinates.revision]; decide
  · obtain ⟨checked, same, resumes⟩ := valid _ ready
    have coordinates : EnvelopeValid envelope := validateWaitEnvelope_valid checked
    have accepted := validateResumeEvidence_valid resumes
    refine ⟨coordinates, same, ?_, ?_, accepted.afterStart, fun zero => ?_⟩
    · rw [accepted.revision, coordinates.revision]; decide
    · rw [accepted.revision, coordinates.revision]; decide
    · have later := accepted.afterStart
      rw [zero] at later
      exact coordinates.started (UInt64.le_zero_iff.1 later)

/-- A Waiting Turn, or one whose accepted settlement approved the call, is
closed by a cancellation. -/
theorem closure_settles {revision atMs : UInt64} (last : thread.turns = before ++ [turn])
    (running : turn.status = .running) (scanned : scanItems turn.id turn.items = .ok cursor)
    (live : cursor.closed = false)
    (phase : OpenAt (fun resume => resume.settlement.decision.isDeny = false) cursor.execution
      envelope revision atMs) (few : (threadItemIds thread).length < 2 ^ 40 - 1) :
    ∃ stopped transition status, Settlement thread (.waitClosed turn.id stopped transition status)
      := by
  obtain ⟨coordinates, sameTurn, positive, next, started, timed⟩ :=
    openAt_next (scanItems_executionValid scanned) phase
  obtain ⟨stoppedId, transitionId, stoppedValid, transitionValid, distinct, stoppedNew,
    transitionNew⟩ := exists_fresh_pair few
  have authorized := envelopeAuthority_eq_ok coordinates
  have commandId : validateStateId "Agent Loop close command" stoppedId = .ok () :=
    stateId_kind stoppedValid
  obtain ⟨digest, digests, lower⟩ := @waitCloseCommandSha256_ok _ envelope.threadId
    envelope.turnId ⟨envelope.waitId, revision, stoppedId, .cancelled, .cancelled⟩
    ⟨envelope.requestedBy, envelope.tenantId⟩ (stateId_len coordinates.threadId)
    (stateId_len coordinates.turnId) (stateId_len coordinates.waitId) (stateId_len stoppedValid)
    (authority_len coordinates.requester coordinates.tenant)
  let evidence : WaitClosureEvidence := ⟨envelope.waitId, revision, revision + 1, stoppedId,
    .cancelled, .cancelled, digest, atMs⟩
  let stopped : Item := ⟨stoppedId, atMs, .turnStopped .cancelled .approval⟩
  let transition : Item := ⟨transitionId, atMs, .agentLoopWaitClosed evidence⟩
  have closure : validateWaitClosureEvidence envelope evidence = .ok () := by
    have cancelled : (TurnStatus.cancelled == TurnStatus.timedOut) = false := rfl
    simp [validateWaitClosureEvidence, evidence, commandId, validateWaitCloseStatus, next, orError,
      beq_false_of_ne positive, lower, UInt64.not_lt.2 started, cancelled, authorized, digests]
  have turnIdValid : validateStateId "turn" turn.id = .ok () :=
    sameTurn ▸ stateId_kind coordinates.turnId
  have valid : validateStateEvent (.waitClosed turn.id stopped transition .cancelled) = .ok () := by
    refine waitClosed_eq_ok.2 ⟨⟨turnIdValid, stoppedValid, transitionValid, rfl, ?_, distinct,
      rfl⟩, evidence, rfl, rfl, rfl, by simp [turnStoppedMatchesClosure, stopped, evidence]⟩
    simp [validateStateItem, transition, evidence, stateId_kind coordinates.waitId, commandId,
      validateWaitCloseStatus, next, orError, beq_false_of_ne positive, beq_false_of_ne timed,
      lower]
  have projects : projectItem turn.id { cursor with seen := cursor.seen ++ [stopped] } transition =
      .ok ⟨cursor.seen ++ [stopped] ++ [transition], none, none, true⟩ :=
    (projectItem_waitClosed rfl).2 ⟨live, envelope, revision, atMs, phase, rfl, rfl,
      UInt64.le_refl _, closure,
      by simp [precededBy, turnStoppedMatchesClosure, stopped, evidence], rfl⟩
  refine ⟨stopped, transition, .cancelled, rfl, valid, rfl, ?_, fun e is => ?_, trivial⟩
  · have small := @waitClosed_len turn.id stopped transition .cancelled evidence
      (stateId_len turnIdValid) (stateId_len stoppedValid) (stateId_len transitionValid) rfl rfl
      (stateId_len coordinates.waitId) (stateId_len stoppedValid) (lowerSha256_len lower)
    simp only [recoveryCharge, stateEventRecoveryOverheadBytes, stateTerminalRecoveryByteReserve]
    omega
  · exact ⟨_, .appended (by rw [is]; rfl) last rfl running
      (newItems_pair distinct stoppedNew transitionNew)
      ((scanItems_pair scanned live rfl).2 projects) (by rw [is]; rfl)
      (by rw [is]; simp [closingStatus])⟩

/-- A Turn whose accepted settlement denied the call is settled by the denial
that carries exactly that settlement. -/
theorem denial_settles {resume : ResumeEvidence} (last : thread.turns = before ++ [turn])
    (running : turn.status = .running) (scanned : scanItems turn.id turn.items = .ok cursor)
    (live : cursor.closed = false) (ready : cursor.execution = some (.ready envelope resume))
    (denied : resume.settlement.decision.isDeny = true)
    (few : (threadItemIds thread).length < 2 ^ 40 - 1) :
    ∃ first transition evidence, transition.kind = .agentLoopWaitDenied evidence ∧
      evidence.settlement = resume.settlement ∧
      Settlement thread (.denyWait turn.id first transition) := by
  have phase : OpenAt (fun r => r.settlement = resume.settlement) cursor.execution envelope
      resume.revision resume.acceptedAtMs := .inr ⟨resume, ready, rfl, rfl, rfl⟩
  obtain ⟨coordinates, sameTurn, positive, next, started, timed⟩ :=
    openAt_next (scanItems_executionValid scanned) phase
  obtain ⟨_, _, resumes⟩ := scanItems_executionValid scanned _ ready
  have accepted : ResumeValid envelope resume := validateResumeEvidence_valid resumes
  have settles := accepted.settlement
  obtain ⟨shape, _⟩ := seq_eq_ok.1 settles
  obtain ⟨firstId, transitionId, firstValid, transitionValid, distinct, firstNew,
    transitionNew⟩ := exists_fresh_pair few
  have authorized := envelopeAuthority_eq_ok coordinates
  have commandId : validateStateId "Agent Loop denial command" firstId = .ok () :=
    stateId_kind firstValid
  obtain ⟨digest, digests, lower⟩ := @waitDenialCommandSha256_ok _ envelope.threadId
    envelope.turnId envelope.waitId resume.revision firstId resume.settlement
    ⟨envelope.requestedBy, envelope.tenantId⟩ (stateId_len coordinates.threadId)
    (stateId_len coordinates.turnId) (stateId_len coordinates.waitId) (stateId_len firstValid)
    (settlement_len shape).1 (authority_len coordinates.requester coordinates.tenant)
  let evidence : WaitDenialEvidence := ⟨envelope.waitId, resume.revision, resume.revision + 1,
    firstId, digest, resume.settlement, resume.acceptedAtMs⟩
  let first : Item := ⟨firstId, resume.acceptedAtMs, .approvalDecision resume.settlement.request.id
    resume.settlement.request.authorization.callId resume.settlement.decision⟩
  let transition : Item := ⟨transitionId, resume.acceptedAtMs, .agentLoopWaitDenied evidence⟩
  have denial : validateWaitDenialEvidence envelope evidence = .ok () := by
    simp [validateWaitDenialEvidence, evidence, commandId, settles, denied, next, orError,
      beq_false_of_ne positive, lower, UInt64.not_lt.2 started,
      UInt64.not_lt.2 accepted.afterSettlement, authorized, digests]
  have turnIdValid : validateStateId "turn" turn.id = .ok () :=
    sameTurn ▸ stateId_kind coordinates.turnId
  have correlated : approvalDecisionMatchesDenial first evidence = true := by
    simp [approvalDecisionMatchesDenial, first, evidence, denied]
  have valid : validateStateEvent (.denyWait turn.id first transition) = .ok () := by
    refine denyWait_eq_ok.2 ⟨⟨turnIdValid, firstValid, transitionValid, rfl, ?_, distinct, rfl⟩,
      evidence, rfl, rfl, correlated⟩
    simp [validateStateItem, transition, evidence, stateId_kind coordinates.waitId, commandId,
      shape, next, orError, beq_false_of_ne positive, beq_false_of_ne timed, denied, lower]
  have projects : projectItem turn.id { cursor with seen := cursor.seen ++ [first] } transition =
      .ok ⟨cursor.seen ++ [first] ++ [transition], none, none, true⟩ :=
    (projectItem_waitDenied rfl).2 ⟨live, envelope, resume.revision, resume.acceptedAtMs, phase,
      rfl, rfl, UInt64.le_refl _, denial, by simp [precededBy, correlated], rfl⟩
  refine ⟨first, transition, evidence, rfl, rfl, rfl, valid, rfl, ?_, fun e is => ?_, trivial⟩
  · have small := @denyWait_len turn.id first transition evidence (stateId_len turnIdValid)
      (stateId_len firstValid) (stateId_len transitionValid) rfl rfl
      (stateId_len coordinates.waitId) (stateId_len firstValid) (lowerSha256_len lower) shape
    have bounded := (settlement_len shape).1
    change (StateEvent.denyWait turn.id first transition).toJson.encodedLen ≤
      resume.settlement.toJson.encodedLen + 16384 at small
    simp only [maxApprovalRecordBytes] at bounded
    simp only [recoveryCharge, stateEventRecoveryOverheadBytes, stateTerminalRecoveryByteReserve]
    omega
  · exact ⟨_, .appended (by rw [is]; rfl) last rfl running
      (newItems_pair distinct firstNew transitionNew)
      ((scanItems_pair scanned live rfl).2 projects) (by rw [is]; rfl)
      (by rw [is]; simp [closingStatus])⟩

/-- The settlement that the phase of a running Turn asks for. -/
def SettlesPhase (turnId : TurnId) : Option AgentLoopExecution → StateEvent → Prop
  | none, event | some (.executing _ _ _), event =>
    ∃ status, event = .turnFinished turnId status
  | some (.waiting _), event =>
    ∃ stopped transition status, event = .waitClosed turnId stopped transition status
  | some (.ready _ resume), event =>
    if resume.settlement.decision.isDeny then
      ∃ first transition evidence, event = .denyWait turnId first transition ∧
        transition.kind = .agentLoopWaitDenied evidence ∧
        evidence.settlement = resume.settlement
    else ∃ stopped transition status, event = .waitClosed turnId stopped transition status

theorem exists_settlement (last : thread.turns = before ++ [turn])
    (running : turn.status = .running) (turnId : validateStateId "turn" turn.id = .ok ())
    (scanned : scanItems turn.id turn.items = .ok cursor) (live : cursor.closed = false)
    (few : (threadItemIds thread).length < 2 ^ 40 - 1) :
    ∃ event, SettlesPhase turn.id cursor.execution event ∧ Settlement thread event := by
  cases phase : cursor.execution with
  | none =>
    exact ⟨_, ⟨_, rfl⟩, finish_settles last running turnId scanned (by rw [phase]; rfl)⟩
  | some execution =>
    cases execution with
    | waiting envelope =>
      obtain ⟨stopped, transition, status, settles⟩ := closure_settles last running scanned
        live (.inl ⟨phase, rfl, rfl⟩) few
      exact ⟨_, ⟨stopped, transition, status, rfl⟩, settles⟩
    | ready envelope resume =>
      cases denied : resume.settlement.decision.isDeny with
      | true =>
        obtain ⟨first, transition, evidence, kind, same, settles⟩ :=
          denial_settles last running scanned live phase denied few
        refine ⟨_, ?_, settles⟩
        simp only [SettlesPhase, denied, if_true]
        exact ⟨first, transition, evidence, rfl, kind, same⟩
      | false =>
        obtain ⟨stopped, transition, status, settles⟩ := closure_settles last running
          scanned live (.inr ⟨resume, phase, denied, rfl, rfl⟩) few
        refine ⟨_, ?_, settles⟩
        simp only [SettlesPhase, denied]
        exact ⟨stopped, transition, status, rfl⟩
    | executing envelope resume claim =>
      exact ⟨_, ⟨_, rfl⟩, finish_settles last running turnId scanned (by rw [phase]; rfl)⟩

/-- An event that settles the running Turn is accepted by `validate_pending_event`
at the current fences, under any admissible event identity, and replays to a
Thread in which no Turn runs. -/
def Settleable (s : MemoryStore) (threadId : ThreadId) (turn : Turn) : Prop :=
  ∃ execution event, agentLoopExecutionProjection turn = .ok execution ∧
    SettlesPhase turn.id execution event ∧
    ∀ eventId recordedAtMs, validateStateId "event" eventId = .ok () →
      ∃ pending : PendingEvent, pending = ⟨eventId, threadId, s.streamVersions threadId,
          s.streamRecoveryBytes threadId, recordedAtMs, event⟩ ∧
        (∃ charge, validatePendingEvent pending = .ok charge) ∧
        ∃ after, projectEvents (s.journal threadId ++ [s.nextStored pending]) = .ok (some after) ∧
          runningTurn after = none

theorem runningTurn_some (wf : ThreadWF thread) (running : runningTurn thread = some turn) :
    ∃ before, thread.turns = before ++ [turn] ∧ turn.status = .running := by
  have status : turn.status = .running := by simpa using List.find?_some running
  obtain ⟨initial, last⟩ := List.mem_iff_append.1 (List.mem_of_find?_eq_some running)
  obtain ⟨final, split⟩ := last
  cases final with
  | nil => exact ⟨initial, split, status⟩
  | cons t rest =>
    refine absurd status (wf.runningLast turn ?_)
    rw [split, List.dropLast_append_of_ne_nil (by simp)]
    simp

/-- **The terminal reserve.**  In every reachable journal with a running Turn the
last event slot and the byte reserve are free, and `validate_pending_event`
accepts the settlement that the phase of the Turn asks for. -/
theorem running_turn_settles {s : MemoryStore} (reached : StoreReachable s) {threadId : ThreadId}
    {thread : Thread} {turn : Turn}
    (projected : projectEvents (s.journal threadId) = .ok (some thread))
    (running : runningTurn thread = some turn) :
    (s.journal threadId).length < stateThreadEventLimit ∧
      s.streamRecoveryBytes threadId ≤
        stateThreadRecoveryByteLimit - stateTerminalRecoveryByteReserve ∧
      Settleable s threadId turn := by
  have wf := reached.wf
  have journal := wf.journalOf threadId
  obtain ⟨replays, _⟩ := projectEvents_eq_ok.1 projected
  obtain ⟨threadWf, _⟩ := replays.wf journal
  obtain ⟨slot, bytes⟩ := reserve_of_running (reached.budget threadId) journal replays running
  obtain ⟨before, last, status⟩ := runningTurn_some threadWf running
  obtain ⟨cursor, scanned, live⟩ := threadWf.scanned turn (by simp [last])
  have turnId := replays.turnIds journal turn (by simp [last])
  have items := replays.items_length journal
  simp only [stateThreadEventLimit, maxToolCallsPerBatch] at slot items
  obtain ⟨event, phase, settles⟩ :=
    exists_settlement last status turnId scanned (live status) (by omega)
  rw [wf.charges]
  refine ⟨slot, bytes, cursor.execution, event,
    agentLoopExecutionProjection_eq_ok.2 ⟨cursor, scanned, rfl⟩, phase, ?_⟩
  intro eventId recordedAtMs eventIdValid
  refine ⟨_, rfl, ?_⟩
  have threadIdValid : validateStateId "thread" threadId = .ok () := by
    cases events : s.journal threadId with
    | nil => rw [events] at replays; cases replaysTo_nil.1 replays
    | cons e rest =>
      obtain ⟨same, _, valid⟩ := journal e (by rw [events]; exact List.mem_cons_self)
      rw [← same]
      exact (validateStoredEvent_eq_ok.1 valid).2.2.1
  have pendingValid : validatePendingEvent ⟨eventId, threadId, s.streamVersions threadId,
      s.streamRecoveryBytes threadId, recordedAtMs, event⟩ = .ok (recoveryCharge event) := by
    have size := settles.size
    simp only [stateThreadRecoveryByteLimit, stateTerminalRecoveryByteReserve] at bytes size
    refine validatePendingEvent_eq_ok.2 ⟨eventIdValid, threadIdValid, ?_, .inr settles.terminal,
      settles.valid, settles.schema, encodeStateEvent_terminal settles.terminal settles.size,
      ?_, ?_⟩
    · rw [wf.versions]
      exact slot
    · rw [wf.charges]
      simp only [UInt64.size]
      omega
    · rw [wf.charges, settles.terminal]
      simp only [if_true, stateThreadRecoveryByteLimit]
      omega
  refine ⟨⟨_, pendingValid⟩, ?_⟩
  obtain ⟨after, step⟩ := settles.steps (s.nextStored ⟨eventId, threadId,
    s.streamVersions threadId, s.streamRecoveryBytes threadId, recordedAtMs, event⟩) rfl
  have extended : JournalOf threadId (s.journal threadId ++ [s.nextStored ⟨eventId, threadId,
      s.streamVersions threadId, s.streamRecoveryBytes threadId, recordedAtMs, event⟩]) := by
    intro e member
    rcases List.mem_append.1 member with earlier | added
    · exact journal e earlier
    · rw [List.mem_singleton.1 added]
      exact ⟨rfl, _, nextStored_valid pendingValid⟩
  refine ⟨after, projectEvents_concat extended projected step ?_, ?_⟩
  · rintro _ ⟨⟩
    exact settles.admits
  · exact step.terminal_idle (fun t same => by cases same; exact threadWf) settles.terminal

end Settling

/-- A Turn that waits for an approval. -/
theorem running_turn_settles_waiting :
    ∃ s thread turn, @MemoryStore.appendAll sampleSha256 .empty sampleAppends = .ok s ∧
      (s.agentLoopWaits "thread-1").isSome = true ∧
      @projectEvents sampleSha256 (s.journal "thread-1") = .ok (some thread) ∧
      runningTurn thread = some turn ∧
      (s.journal "thread-1").length < stateThreadEventLimit ∧
      s.streamRecoveryBytes "thread-1" ≤
        stateThreadRecoveryByteLimit - stateTerminalRecoveryByteReserve ∧
      @Settleable sampleSha256 s "thread-1" turn := by
  let _ := sampleSha256
  have accepted : ((MemoryStore.empty.appendAll sampleAppends).toOption.bind fun s =>
      ((projectEvents (s.journal "thread-1")).toOption.bind fun found =>
        found.bind runningTurn).filter fun _ => (s.agentLoopWaits "thread-1").isSome).isSome =
          true := by
    decide +kernel
  obtain ⟨turn, found⟩ := Option.isSome_iff_exists.1 accepted
  obtain ⟨s, appended, found⟩ := Option.bind_eq_some_iff.1 found
  obtain ⟨found, waits⟩ := Option.filter_eq_some_iff.1 found
  obtain ⟨thread, projected, found⟩ := Option.bind_eq_some_iff.1 found
  obtain ⟨thread, rfl, running⟩ := Option.bind_eq_some_iff.1 found
  replace appended := toOption_eq_some.1 appended
  replace projected := toOption_eq_some.1 projected
  obtain ⟨slot, bytes, settles⟩ :=
    running_turn_settles (appendAll_reachable .empty appended) projected running
  exact ⟨s, thread, turn, appended, waits, projected, running, slot, bytes, settles⟩

end YHarness.State

/-
# YHarness.State.Ledger -- what every reachable Event Store satisfies

The steps of the Event Store and the invariant they keep (`StoreWF`): global
sequence numbers count the journal, Event identities do not repeat, every stored
event is valid on its own, and the fences of each stream are the length and the
charge of its journal.
-/
import YHarness.State.Store
import YHarness.State.Replay

namespace YHarness.State

open YHarness.Lib YHarness.Kernel

set_option autoImplicit false

/-! ## Journals of a growing store -/

/-- The charge of a journal. -/
def journalCharge (events : List StoredEvent) : Nat :=
  (events.map fun e => recoveryCharge e.event).sum

@[simp] theorem journalCharge_append (left right : List StoredEvent) :
    journalCharge (left ++ right) = journalCharge left + journalCharge right := by
  simp [journalCharge]

variable {s s' : MemoryStore} {threadId : ThreadId} {pending : PendingEvent} {e : StoredEvent}
  {index : Nat} {charge : Nat}

theorem mem_journal {s : MemoryStore} :
    e ∈ s.journal threadId ↔ e ∈ s.events ∧ e.threadId = threadId := by
  simp [MemoryStore.journal]

namespace MemoryStore

@[simp] theorem applyWaitChange_events (s : MemoryStore) (change : AgentLoopWaitProjectionChange) :
    (s.applyWaitChange change).events = s.events := by
  cases change <;> rfl

@[simp] theorem applyWaitChange_streamVersions (s : MemoryStore)
    (change : AgentLoopWaitProjectionChange) :
    (s.applyWaitChange change).streamVersions = s.streamVersions := by
  cases change <;> rfl

@[simp] theorem applyWaitChange_streamRecoveryBytes (s : MemoryStore)
    (change : AgentLoopWaitProjectionChange) :
    (s.applyWaitChange change).streamRecoveryBytes = s.streamRecoveryBytes := by
  cases change <;> rfl

@[simp] theorem applyWaitChange_streamTenants (s : MemoryStore)
    (change : AgentLoopWaitProjectionChange) :
    (s.applyWaitChange change).streamTenants = s.streamTenants := by
  cases change <;> rfl

@[simp] theorem applyWaitChange_snapshots (s : MemoryStore)
    (change : AgentLoopWaitProjectionChange) :
    (s.applyWaitChange change).snapshots = s.snapshots := by
  cases change <;> rfl

@[simp] theorem commitEvent_events (s : MemoryStore) (stored : StoredEvent) (charge : Nat)
    (change : AgentLoopWaitProjectionChange) :
    (s.commitEvent stored charge change).events = s.events ++ [stored] := by
  simp [commitEvent]

theorem commitEvent_agentLoopWaits (s : MemoryStore) (stored : StoredEvent) (charge : Nat)
    (change : AgentLoopWaitProjectionChange) :
    (s.commitEvent stored charge change).agentLoopWaits =
      (s.applyWaitChange change).agentLoopWaits := rfl

theorem commitEvent_agentLoopDue (s : MemoryStore) (stored : StoredEvent) (charge : Nat)
    (change : AgentLoopWaitProjectionChange) :
    (s.commitEvent stored charge change).agentLoopDue =
      (s.applyWaitChange change).agentLoopDue := rfl

end MemoryStore

theorem journal_of_events_append {more : List StoredEvent} (grown : s'.events = s.events ++ more)
    (threadId : ThreadId) :
    s'.journal threadId = s.journal threadId ++ more.filter (·.threadId == threadId) := by
  simp [MemoryStore.journal, grown]

/-- The journal an applied append extends, and the others. -/
theorem journal_of_event (grown : s'.events = s.events ++ [e]) (threadId : ThreadId) :
    s'.journal threadId =
      if e.threadId = threadId then s.journal threadId ++ [e] else s.journal threadId := by
  rw [journal_of_events_append grown]
  split
  · rename_i same
    simp [same]
  · rename_i other
    simp [other]

/-- The tenant of the creation a journal begins with. -/
def creationTenant : List StoredEvent → Option (Option String)
  | ⟨_, _, _, _, _, .threadCreated _ tenantId⟩ :: _ => some tenantId
  | _ => none

theorem creationTenant_append {left right : List StoredEvent} (nonempty : left ≠ []) :
    creationTenant (left ++ right) = creationTenant left := by
  cases left with
  | nil => exact absurd rfl nonempty
  | cons e rest =>
    obtain ⟨_, _, _, _, _, event⟩ := e
    cases event <;> rfl

theorem eventById_eq_none {s : MemoryStore} {eventId : EventId} :
    s.eventById eventId = none ↔ eventId ∉ s.events.map (·.eventId) :=
  find?_key_eq_none

/-! ## Numbered events -/

def newCharge (events : List NewStreamEvent) : Nat :=
  (events.map fun new => recoveryCharge new.event).sum

theorem numberNewEvents_length (threadId : ThreadId) (index : Nat)
    (events : List NewStreamEvent) :
    (numberNewEvents threadId index events).length = events.length := by
  induction events generalizing index with
  | nil => rfl
  | cons new rest ih => simp [numberNewEvents, ih]

theorem numberNewEvents_getElem? {index i : Nat} {events : List NewStreamEvent}
    (at_ : (numberNewEvents threadId index events)[i]? = some e) :
    e.sequence = index + i + 1 ∧ e.threadId = threadId ∧
      ∃ new ∈ events, e.eventId = new.eventId ∧ e.event = new.event ∧
        e.schemaVersion = new.schemaVersion := by
  induction events generalizing index i with
  | nil => simp [numberNewEvents] at at_
  | cons new rest ih =>
    cases i with
    | zero =>
      simp only [numberNewEvents, List.getElem?_cons_zero, Option.some.injEq] at at_
      subst at_
      exact ⟨rfl, rfl, new, by simp, rfl, rfl, rfl⟩
    | succ i =>
      rw [numberNewEvents, List.getElem?_cons_succ] at at_
      obtain ⟨sequence, thread, x, member, same⟩ := ih at_
      exact ⟨by omega, thread, x, List.mem_cons_of_mem _ member, same⟩

theorem mem_numberNewEvents {events : List NewStreamEvent}
    (member : e ∈ numberNewEvents threadId index events) :
    e.threadId = threadId ∧ ∃ new ∈ events, e.eventId = new.eventId ∧ e.event = new.event ∧
      e.schemaVersion = new.schemaVersion := by
  obtain ⟨i, at_⟩ := List.mem_iff_getElem?.1 member
  exact (numberNewEvents_getElem? at_).2

theorem exists_numberNewEvents {events : List NewStreamEvent} {new : NewStreamEvent}
    (member : new ∈ events) :
    ∃ e ∈ numberNewEvents threadId index events, e.event = new.event ∧
      e.schemaVersion = new.schemaVersion := by
  induction events generalizing index with
  | nil => cases member
  | cons first rest ih =>
    rcases List.mem_cons.1 member with rfl | later
    · exact ⟨_, List.mem_cons_self, rfl, rfl⟩
    · obtain ⟨e, e_member, same⟩ := ih later
      exact ⟨e, List.mem_cons_of_mem _ e_member, same⟩

theorem filter_numberNewEvents_self (threadId : ThreadId) (index : Nat)
    (events : List NewStreamEvent) :
    (numberNewEvents threadId index events).filter (·.threadId == threadId) =
      numberNewEvents threadId index events := by
  rw [List.filter_eq_self]
  exact fun e member => by simp [(mem_numberNewEvents member).1]

theorem filter_numberNewEvents_other {threadId other : ThreadId} {events : List NewStreamEvent}
    (different : other ≠ threadId) :
    (numberNewEvents threadId index events).filter (·.threadId == other) = [] := by
  rw [List.filter_eq_nil_iff]
  exact fun e member => by simp [(mem_numberNewEvents member).1, Ne.symm different]

theorem numberNewEvents_eventIds (threadId : ThreadId) (index : Nat)
    (events : List NewStreamEvent) :
    (numberNewEvents threadId index events).map (·.eventId) = events.map (·.eventId) := by
  induction events generalizing index with
  | nil => rfl
  | cons new rest ih => simp [numberNewEvents, ih]

theorem numberNewEvents_charge (threadId : ThreadId) (index : Nat)
    (events : List NewStreamEvent) :
    journalCharge (numberNewEvents threadId index events) = newCharge events := by
  induction events generalizing index with
  | nil => rfl
  | cons new rest ih =>
    simp only [journalCharge, newCharge, numberNewEvents, List.map_cons, List.sum_cons] at ih ⊢
    rw [ih]

/-! ## What an append does -/

theorem matchingExisting_eq_ok {existing stored : StoredEvent} :
    matchingExisting existing pending = .ok stored ↔
      existing.threadId = pending.threadId ∧ existing.recordedAtMs = pending.recordedAtMs ∧
        existing.event = pending.event ∧ stored = existing := by
  simp only [matchingExisting, seq_eq_ok, rejectIf_eq_ok, Bool.not_eq_false', Bool.and_eq_true,
    beq_iff_eq, ok_eq_ok, and_assoc]

theorem not_decide_pos (n : Nat) : (!decide (0 < n)) = decide (n = 0) := by
  cases n <;> simp

theorem validateThreadExistence_eq_ok {threadExists : Bool} {u : Unit} :
    validateThreadExistence threadExists pending = .ok u ↔
      isCreation pending.event = !threadExists := by
  simp only [validateThreadExistence, seq_eq_ok, rejectIf_eq_ok]
  cases isCreation pending.event <;> cases threadExists <;> simp

variable [Sha256]

/-- An append that stored its event. -/
structure Applied (s : MemoryStore) (pending : PendingEvent) (s' : MemoryStore) : Prop where
  pendingValid : validatePendingEvent pending = .ok (recoveryCharge pending.event)
  fresh : s.eventById pending.eventId = none
  version : s.streamVersions pending.threadId = pending.expectedStreamVersion
  bytes : s.streamRecoveryBytes pending.threadId = pending.expectedStreamRecoveryBytes
  existence : isCreation pending.event = decide (s.streamVersions pending.threadId = 0)
  commits : ∃ change, projectionChange (s.nextStored pending)
      (s.agentLoopWaits pending.threadId) = .ok change ∧
    s' = s.commitEvent (s.nextStored pending) (recoveryCharge pending.event) change

theorem validatePendingEvent_eq_ok :
    validatePendingEvent pending = .ok charge ↔
      validateStateId "event" pending.eventId = .ok () ∧
      validateStateId "thread" pending.threadId = .ok () ∧
      pending.expectedStreamVersion < maxStateRecoveryEvents ∧
      (pending.expectedStreamVersion < stateThreadEventLimit - stateTerminalEventReserve ∨
        pending.event.isTerminal = true) ∧
      validateStateEvent pending.event = .ok () ∧
      validateStateEventSchema pending.event stateEventSchemaVersion = .ok () ∧
      encodeStateEvent pending.event = .ok charge ∧
      pending.expectedStreamRecoveryBytes + charge < UInt64.size ∧
      pending.expectedStreamRecoveryBytes + charge ≤
        (if pending.event.isTerminal then stateThreadRecoveryByteLimit
          else stateThreadRecoveryByteLimit - stateTerminalRecoveryByteReserve) := by
  simp only [validatePendingEvent, bind_eq_ok (α := Nat), seq_eq_ok, rejectIf_eq_ok,
    decide_eq_false_iff_not, Bool.and_eq_false_iff, Bool.not_eq_false', Nat.not_le, Nat.not_lt]
  constructor
  · rintro ⟨eventId, threadId, below, reserve, valid, schema, _, encoded, fits, bounded, done⟩
    cases done
    exact ⟨eventId, threadId, below, reserve, valid, schema, encoded, fits, bounded⟩
  · rintro ⟨eventId, threadId, below, reserve, valid, schema, encoded, fits, bounded⟩
    exact ⟨eventId, threadId, below, reserve, valid, schema, charge, encoded, fits, bounded, rfl⟩

theorem validatePendingEvent_charge (valid : validatePendingEvent pending = .ok charge) :
    charge = recoveryCharge pending.event := by
  obtain ⟨_, _, _, _, _, _, encoded, _⟩ := validatePendingEvent_eq_ok.1 valid
  exact (encodeStateEvent_eq_ok encoded).1

/-- **Append.**  An append either finds the same event already stored and
changes nothing, or stores the event at the end of the journal. -/
theorem appendClassified_eq_ok {result : EventAppendResult} :
    s.appendClassified pending = .ok (s', result) ↔
      (result.disposition = .duplicate ∧ s' = s ∧
        validatePendingEvent pending = .ok (recoveryCharge pending.event) ∧
        s.eventById pending.eventId = some result.stored ∧
        result.stored.threadId = pending.threadId ∧
        result.stored.recordedAtMs = pending.recordedAtMs ∧
        result.stored.event = pending.event) ∨
      (result.disposition = .applied ∧ result.stored = s.nextStored pending ∧
        Applied s pending s') := by
  obtain ⟨stored, disposition⟩ := result
  simp only [MemoryStore.appendClassified, bind_eq_ok (α := Nat)]
  constructor
  · rintro ⟨charge, pendingValid, appended⟩
    obtain rfl := validatePendingEvent_charge pendingValid
    split at appended
    · rename_i existing found
      simp only [bind_eq_ok, matchingExisting_eq_ok, Except.ok.injEq, Prod.mk.injEq,
        EventAppendResult.mk.injEq] at appended
      obtain ⟨_, ⟨sameThread, sameTime, sameEvent, rfl⟩, rfl, rfl, rfl⟩ := appended
      exact .inl ⟨rfl, rfl, pendingValid, found, sameThread, sameTime, sameEvent⟩
    · rename_i absent
      simp only [bind_eq_ok (α := AgentLoopWaitProjectionChange), seq_eq_ok, validateStreamVersion,
        validateStreamRecoveryBytes, rejectIf_eq_ok, bne_eq_false_iff_eq,
        validateThreadExistence_eq_ok, Except.ok.injEq, Prod.mk.injEq,
        EventAppendResult.mk.injEq] at appended
      obtain ⟨version, bytes, existence, change, changes, rfl, rfl, rfl⟩ := appended
      rw [not_decide_pos] at existence
      exact .inr ⟨rfl, rfl, pendingValid, absent, version, bytes, existence, change, changes, rfl⟩
  · rintro (⟨rfl, rfl, pendingValid, found, sameThread, sameTime, sameEvent⟩ |
      ⟨rfl, rfl, pendingValid, absent, version, bytes, existence, change, changes, rfl⟩)
    · refine ⟨_, pendingValid, ?_⟩
      simp [found, bind_eq_ok, matchingExisting_eq_ok, sameThread, sameTime, sameEvent]
    · refine ⟨_, pendingValid, ?_⟩
      simp only [absent, bind_eq_ok (α := AgentLoopWaitProjectionChange), seq_eq_ok,
        validateStreamVersion, validateStreamRecoveryBytes, rejectIf_eq_ok, bne_eq_false_iff_eq,
        validateThreadExistence_eq_ok, not_decide_pos]
      exact ⟨version, bytes, existence, change, changes, rfl⟩

/-! ## What an atomic stream creation does -/

/-- One event of a new stream, valid on its own. -/
def NewEventValid (new : NewStreamEvent) : Prop :=
  validateStateId "event" new.eventId = .ok () ∧ 1 ≤ new.schemaVersion ∧
    new.schemaVersion ≤ stateEventSchemaVersion ∧ isCheckpointEvent new.event = false ∧
    validateStateEvent new.event = .ok () ∧
    validateStateEventSchema new.event new.schemaVersion = .ok () ∧
    encodeStateEvent new.event = .ok (recoveryCharge new.event)

/-- The loop of `validate_new_stream` accepts exactly new, distinct, valid
events, and numbers them. -/
theorem validateNewEvents_eq_ok {eventIds : List EventId} {charge total : Nat}
    {events : List NewStreamEvent} {synthetic : List StoredEvent} :
    validateNewEvents threadId index eventIds charge events = .ok (total, synthetic) ↔
      (∀ new ∈ events, NewEventValid new ∧ new.eventId ∉ eventIds) ∧
        (events.map (·.eventId)).Nodup ∧ total = charge + newCharge events ∧
        synthetic = numberNewEvents threadId index events := by
  induction events generalizing index eventIds charge total synthetic with
  | nil =>
    simp [validateNewEvents, newCharge, numberNewEvents, eq_comm]
  | cons new rest ih =>
    simp only [validateNewEvents, bind_eq_ok (α := Nat), bind_eq_ok (α := Nat × List StoredEvent),
      seq_eq_ok, rejectIf_eq_ok, Bool.or_eq_false_iff, decide_eq_false_iff_not, Nat.not_lt,
      Prod.exists, ih, Except.ok.injEq, Prod.mk.injEq, List.mem_cons, not_or]
    constructor
    · rintro ⟨idValid, unseen, ⟨low, high⟩, plain, valid, schema, encoded, encodes, _, _,
        ⟨later, nodup, rfl, rfl⟩, rfl, rfl⟩
      obtain ⟨rfl, _⟩ := encodeStateEvent_eq_ok encodes
      refine ⟨?_, ?_, ?_, rfl⟩
      · rintro x (rfl | member)
        · exact ⟨⟨idValid, low, high, plain, valid, schema, encodes⟩, unseen⟩
        · exact ⟨(later x member).1, (later x member).2.2⟩
      · rw [List.map_cons, List.nodup_cons]
        refine ⟨fun repeated => ?_, nodup⟩
        obtain ⟨x, member, same⟩ := List.mem_map.1 repeated
        exact (later x member).2.1 same
      · simp [newCharge, Nat.add_assoc]
    · rintro ⟨all, nodup, rfl, rfl⟩
      obtain ⟨⟨idValid, low, high, plain, valid, schema, encodes⟩, unseen⟩ := all new (.inl rfl)
      rw [List.map_cons, List.nodup_cons] at nodup
      refine ⟨idValid, unseen, ⟨low, high⟩, plain, valid, schema, _, encodes, _, _,
        ⟨fun x member => ?_, nodup.2, rfl, rfl⟩, by simp [newCharge, Nat.add_assoc], rfl⟩
      obtain ⟨validX, unseenX⟩ := all x (.inr member)
      exact ⟨validX, fun same => nodup.1 (List.mem_map.2 ⟨x, member, same⟩), unseenX⟩

/-- The fold reads a stored event's sequence only for a Checkpoint. -/
theorem applyEvent_renumber {p : Projection} {e e' : StoredEvent}
    (schema : e.schemaVersion = e'.schemaVersion) (thread : e.threadId = e'.threadId)
    (event : e.event = e'.event) (plain : isCheckpointEvent e.event = false) :
    applyEvent p e = applyEvent p e' := by
  obtain ⟨schemaVersion, sequence, eventId, threadId, recordedAtMs, event⟩ := e
  obtain ⟨schemaVersion', sequence', eventId', threadId', recordedAtMs', event'⟩ := e'
  cases schema
  cases thread
  cases event
  cases event <;> first | rfl | cases plain

theorem foldEvents_renumber {p : Projection} (i j : Nat) {events : List NewStreamEvent}
    (plain : ∀ new ∈ events, isCheckpointEvent new.event = false) :
    foldEvents p (numberNewEvents threadId i events) =
      foldEvents p (numberNewEvents threadId j events) := by
  induction events generalizing p i j with
  | nil => rfl
  | cons new rest ih =>
    have same : applyEvent p ⟨new.schemaVersion, i + 1, new.eventId, threadId, new.recordedAtMs,
        new.event⟩ = applyEvent p ⟨new.schemaVersion, j + 1, new.eventId, threadId,
          new.recordedAtMs, new.event⟩ :=
      applyEvent_renumber rfl rfl rfl (plain new List.mem_cons_self)
    simp only [foldEvents, numberNewEvents, List.foldlM_cons] at ih ⊢
    rw [same]
    congr 1
    funext p'
    exact ih (i + 1) (j + 1) fun x member => plain x (List.mem_cons_of_mem _ member)

/-- A stream that `validate_new_stream` admits. -/
structure NewStreamValid (threadId : ThreadId) (events : List NewStreamEvent)
    (thread : Thread) : Prop where
  threadIdValid : validateStateId "thread" threadId = .ok ()
  begins : ∃ first second rest, events = first :: second :: rest ∧
    isCreation first.event = true ∧ isProvenance second.event = true
  short : events.length ≤ stateThreadEventLimit - stateTerminalEventReserve
  valid : ∀ new ∈ events, NewEventValid new
  nodup : (events.map (·.eventId)).Nodup
  light : newCharge events ≤ stateThreadRecoveryByteLimit - stateTerminalRecoveryByteReserve
  projects : projectEvents (numberNewEvents threadId 0 events) = .ok (some thread)
  named : thread.id = threadId
  provenance : thread.lineage.isSome ≠ thread.importOrigin.isSome
  settled : ∀ turn ∈ thread.turns, turn.status ≠ .running

omit [Sha256] in
theorem begins_iff {events : List NewStreamEvent} : (match events with
    | first :: second :: _ => isCreation first.event && isProvenance second.event
    | _ => false) = true ↔ ∃ first second rest, events = first :: second :: rest ∧
      isCreation first.event = true ∧ isProvenance second.event = true := by
  rcases events with _ | ⟨first, _ | ⟨second, rest⟩⟩
  · simp
  · simp
  · simp [and_assoc]

theorem validateNewStream_eq_ok {events : List NewStreamEvent} :
    validateNewStream threadId events = .ok charge ↔
      charge = newCharge events ∧ ∃ thread, NewStreamValid threadId events thread := by
  simp only [validateNewStream, bind_eq_ok (α := Nat × List StoredEvent),
    bind_eq_ok (α := Option Thread), bind_eq_ok (α := Thread), seq_eq_ok, rejectIf_eq_ok,
    decide_eq_false_iff_not, Nat.not_lt, Bool.or_eq_false_iff, Prod.exists,
    validateNewEvents_eq_ok, orError_eq_ok, bne_eq_false_iff_eq, beq_eq_false_iff_ne,
    List.any_eq_false, beq_iff_eq, Bool.not_eq_false', ok_eq_ok]
  constructor
  · rintro ⟨threadIdValid, begins, short, _, _, ⟨valid, nodup, rfl, rfl⟩, light, _, projects,
      thread, rfl, ⟨named, provenance⟩, settled, rfl⟩
    exact ⟨by simp, thread, threadIdValid, begins_iff.1 begins, short,
      fun new member => (valid new member).1, nodup, by simpa using light, projects, named,
      provenance, settled⟩
  · rintro ⟨rfl, thread, threadIdValid, begins, short, valid, nodup, light, projects, named,
      provenance, settled⟩
    exact ⟨threadIdValid, begins_iff.2 begins, short, _, _,
      ⟨fun new member => ⟨valid new member, by simp⟩, nodup, rfl, rfl⟩, by simpa using light, _,
      projects, thread, rfl, ⟨named, provenance⟩, settled, by simp⟩

/-- A stream that was created atomically. -/
structure Created (s : MemoryStore) (threadId : ThreadId) (events : List NewStreamEvent)
    (s' : MemoryStore) : Prop where
  stream : ∃ thread, NewStreamValid threadId events thread
  unused : s.streamVersions threadId = 0
  fresh : ∀ new ∈ events, s.eventById new.eventId = none
  idle : s.agentLoopWaits threadId = none
  grows : s'.events = s.events ++ numberNewEvents threadId s.events.length events
  version : s'.streamVersions = Function.update s.streamVersions threadId events.length
  bytes : s'.streamRecoveryBytes =
    Function.update s.streamRecoveryBytes threadId (newCharge events)
  tenant : s'.streamTenants = Function.update s.streamTenants threadId
    (creationTenant (numberNewEvents threadId s.events.length events))
  snapshots : s'.snapshots = s.snapshots
  waits : s'.agentLoopWaits = s.agentLoopWaits
  due : s'.agentLoopDue = s.agentLoopDue

theorem NewStreamValid.replays {events : List NewStreamEvent} {thread : Thread}
    (stream : NewStreamValid threadId events thread) (index : Nat) :
    ReplaysTo (numberNewEvents threadId index events) (some thread) := by
  obtain ⟨p, folded, projected⟩ := (projectEvents_eq_ok.1 stream.projects).1
  refine ⟨p, ?_, projected⟩
  rw [foldEvents_renumber index 0 fun new member => (stream.valid new member).2.2.2.1]
  exact folded

theorem createStreamAtomic_eq_ok {events : List NewStreamEvent} {stored : List StoredEvent} :
    s.createStreamAtomic threadId events = .ok (s', stored) →
      stored = numberNewEvents threadId s.events.length events ∧ Created s threadId events s' := by
  simp only [MemoryStore.createStreamAtomic, bind_eq_ok (α := Nat),
    bind_eq_ok (α := Option String), seq_eq_ok, rejectIf_eq_ok, bne_eq_false_iff_eq,
    List.any_eq_false, validateNewStream_eq_ok, Except.ok.injEq, Prod.mk.injEq,
    Option.isSome_eq_false_iff, Option.isNone_iff_eq_none]
  rintro ⟨_, ⟨rfl, stream⟩, unused, fresh, tenantId, tenant, idle, rfl, rfl⟩
  refine ⟨rfl, stream, unused, fun new member => ?_, idle, rfl, ?_, rfl, ?_, rfl, rfl, rfl⟩
  · simpa using fresh new member
  · simp [numberNewEvents_length]
  · have first : creationTenant (numberNewEvents threadId s.events.length events) =
        some tenantId := by
      unfold finalStreamTenant at tenant
      split at tenant
      · rename_i begins
        cases tenant
        rw [begins]
        rfl
      · cases tenant
    simp [first]

/-! ## The invariant -/

structure StoreWF (s : MemoryStore) : Prop where
  sequences : ∀ i e, s.events[i]? = some e → e.sequence = i + 1
  nodup : (s.events.map (·.eventId)).Nodup
  valid : ∀ e ∈ s.events, ∃ charge, validateStoredEvent e = .ok charge
  versions : ∀ threadId, s.streamVersions threadId = (s.journal threadId).length
  charges : ∀ threadId, s.streamRecoveryBytes threadId = journalCharge (s.journal threadId)
  tenants : ∀ threadId, s.streamTenants threadId = creationTenant (s.journal threadId)
  begins : ∀ threadId e, (s.journal threadId).head? = some e → isCreation e.event = true

theorem empty_wf : StoreWF .empty where
  sequences := by simp [MemoryStore.empty]
  nodup := by simp [MemoryStore.empty]
  valid := by simp [MemoryStore.empty]
  versions := by simp [MemoryStore.empty, MemoryStore.journal]
  charges := by simp [MemoryStore.empty, MemoryStore.journal, journalCharge]
  tenants := by simp [MemoryStore.empty, MemoryStore.journal, creationTenant]
  begins := by simp [MemoryStore.empty, MemoryStore.journal]

theorem StoreWF.journalOf {s : MemoryStore} (wf : StoreWF s) (threadId : ThreadId) :
    JournalOf threadId (s.journal threadId) := by
  intro e member
  obtain ⟨stored, same⟩ := mem_journal.1 member
  exact ⟨same, wf.valid e stored⟩

/-- The event an applied append stores is valid on its own. -/
theorem nextStored_valid {s : MemoryStore}
    (valid : validatePendingEvent pending = .ok (recoveryCharge pending.event)) :
    validateStoredEvent (s.nextStored pending) = .ok (recoveryCharge pending.event) := by
  obtain ⟨eventId, threadId, _, _, event, schema, encoded, _⟩ :=
    validatePendingEvent_eq_ok.1 valid
  refine validateStoredEvent_eq_ok.2 ⟨?_, eventId, threadId, event, encoded⟩
  simp only [validateStoredSchema, MemoryStore.nextStored, seq_eq_ok, rejectIf_eq_ok]
  exact ⟨by simp [stateEventSchemaVersion], by simp [stateEventSchemaVersion], schema⟩

theorem Applied.events (applied : Applied s pending s') :
    s'.events = s.events ++ [s.nextStored pending] := by
  obtain ⟨change, _, rfl⟩ := applied.commits
  simp

theorem Applied.journal (applied : Applied s pending s') (threadId : ThreadId) :
    s'.journal threadId = if pending.threadId = threadId
      then s.journal threadId ++ [s.nextStored pending] else s.journal threadId :=
  journal_of_event applied.events threadId

/-- **An append keeps the invariant.** -/
theorem Applied.wf (wf : StoreWF s) (applied : Applied s pending s') : StoreWF s' := by
  have grown := applied.events
  have journal := applied.journal
  have fresh := eventById_eq_none.1 applied.fresh
  have version := applied.version
  have existence := applied.existence
  obtain ⟨change, _, rfl⟩ := applied.commits
  refine ⟨?_, ?_, ?_, ?_, ?_, ?_, ?_⟩
  · intro i e at_
    rw [grown] at at_
    rcases Nat.lt_or_ge i s.events.length with before | after
    · rw [List.getElem?_append_left before] at at_
      exact wf.sequences i e at_
    · rw [List.getElem?_append_right after] at at_
      obtain ⟨here, rfl⟩ : i - s.events.length = 0 ∧ s.nextStored pending = e := by
        cases offset : i - s.events.length with
        | zero => rw [offset] at at_; exact ⟨rfl, by simpa using at_⟩
        | succ n => rw [offset] at at_; simp at at_
      simp only [MemoryStore.nextStored]
      omega
  · rw [grown, List.map_append, List.nodup_append]
    refine ⟨wf.nodup, by simp, ?_⟩
    rintro id member _ added rfl
    simp only [List.map_cons, List.map_nil, List.mem_singleton] at added
    rw [added] at member
    exact fresh member
  · intro e member
    rw [grown, List.mem_append, List.mem_singleton] at member
    rcases member with earlier | rfl
    · exact wf.valid e earlier
    · exact ⟨_, nextStored_valid applied.pendingValid⟩
  · intro threadId
    rw [journal]
    simp only [MemoryStore.commitEvent, MemoryStore.applyWaitChange_streamVersions,
      Function.update_apply, MemoryStore.nextStored]
    by_cases same : threadId = pending.threadId
    · simp [same, wf.versions]
    · simp [same, Ne.symm same, wf.versions]
  · intro threadId
    rw [journal]
    simp only [MemoryStore.commitEvent, MemoryStore.applyWaitChange_streamRecoveryBytes,
      Function.update_apply, MemoryStore.nextStored]
    by_cases same : threadId = pending.threadId
    · simp [same, wf.charges, journalCharge]
    · simp [same, Ne.symm same, wf.charges]
  · intro threadId
    rw [journal]
    by_cases same : pending.threadId = threadId
    · subst same
      rw [if_pos rfl]
      cases creation : isCreation pending.event with
      | true =>
        have empty : s.journal pending.threadId = [] := by
          rw [creation, eq_comm, decide_eq_true_iff, wf.versions] at existence
          exact List.length_eq_zero_iff.1 existence
        rw [empty]
        cases event : pending.event with
        | threadCreated createdAtMs tenantId =>
          simp [MemoryStore.commitEvent, MemoryStore.recordTenant, MemoryStore.nextStored,
            event, creationTenant]
        | _ => rw [event] at creation; cases creation
      | false =>
        have nonempty : s.journal pending.threadId ≠ [] := by
          rw [creation, eq_comm, decide_eq_false_iff_not, wf.versions] at existence
          exact fun empty => existence (by rw [empty]; rfl)
        rw [creationTenant_append nonempty, ← wf.tenants]
        cases event : pending.event with
        | threadCreated createdAtMs tenantId => rw [event] at creation; cases creation
        | _ =>
          simp [MemoryStore.commitEvent, MemoryStore.recordTenant, MemoryStore.nextStored,
            event]
    · rw [if_neg same, ← wf.tenants]
      cases event : pending.event <;>
        simp [MemoryStore.commitEvent, MemoryStore.recordTenant, MemoryStore.nextStored, event,
          Ne.symm same]
  · intro threadId e head
    rw [journal] at head
    by_cases same : pending.threadId = threadId
    · subst same
      rw [if_pos rfl] at head
      cases rest : s.journal pending.threadId with
      | nil =>
        rw [rest] at head
        simp only [List.nil_append, List.head?_cons, Option.some.injEq] at head
        subst head
        rw [wf.versions, rest] at existence
        exact existence
      | cons first tail =>
        rw [rest] at head
        exact wf.begins pending.threadId e (by rw [rest]; exact head)
    · rw [if_neg same] at head
      exact wf.begins threadId e head

theorem Created.journal_self {events : List NewStreamEvent} (wf : StoreWF s)
    (created : Created s threadId events s') :
    s'.journal threadId = numberNewEvents threadId s.events.length events := by
  have empty : s.journal threadId = [] :=
    List.length_eq_zero_iff.1 (by rw [← wf.versions]; exact created.unused)
  rw [journal_of_events_append created.grows, empty, filter_numberNewEvents_self,
    List.nil_append]

theorem Created.journal_other {threadId other : ThreadId} {events : List NewStreamEvent}
    (created : Created s threadId events s') (different : other ≠ threadId) :
    s'.journal other = s.journal other := by
  rw [journal_of_events_append created.grows, filter_numberNewEvents_other different,
    List.append_nil]

/-- **An atomic creation keeps the invariant.** -/
theorem Created.wf {events : List NewStreamEvent} (wf : StoreWF s)
    (created : Created s threadId events s') : StoreWF s' := by
  obtain ⟨thread, stream⟩ := created.stream
  have own := created.journal_self wf
  refine ⟨?_, ?_, ?_, ?_, ?_, ?_, ?_⟩
  · intro i e at_
    rw [created.grows] at at_
    rcases Nat.lt_or_ge i s.events.length with before | after
    · rw [List.getElem?_append_left before] at at_
      exact wf.sequences i e at_
    · rw [List.getElem?_append_right after] at at_
      have := (numberNewEvents_getElem? at_).1
      omega
  · rw [created.grows, List.map_append, List.nodup_append, numberNewEvents_eventIds]
    refine ⟨wf.nodup, stream.nodup, ?_⟩
    rintro id member _ added rfl
    obtain ⟨new, new_member, rfl⟩ := List.mem_map.1 added
    exact eventById_eq_none.1 (created.fresh new new_member) member
  · intro e member
    rw [created.grows, List.mem_append] at member
    rcases member with earlier | added
    · exact wf.valid e earlier
    · obtain ⟨sameThread, new, new_member, sameId, sameEvent, sameSchema⟩ :=
        mem_numberNewEvents added
      obtain ⟨idValid, low, high, plain, valid, schema, encoded⟩ := stream.valid new new_member
      refine ⟨recoveryCharge e.event, validateStoredEvent_eq_ok.2 ⟨?_, ?_, ?_, ?_, ?_⟩⟩
      · obtain ⟨e₀, e₀_member, sameEvent₀, sameSchema₀⟩ := exists_numberNewEvents new_member
        have schema₀ := foldEvents_schema (projectEvents_eq_ok.1 stream.projects).1 e₀ e₀_member
        rw [validateStoredSchema, sameSchema₀, sameEvent₀] at schema₀
        rw [validateStoredSchema, sameSchema, sameEvent]
        exact schema₀
      · rw [sameId]; exact idValid
      · rw [sameThread]; exact stream.threadIdValid
      · rw [sameEvent]; exact valid
      · rw [sameEvent]; exact encoded
  · intro t
    rw [created.version, Function.update_apply]
    by_cases same : t = threadId
    · simp [same, own, numberNewEvents_length]
    · simp [same, created.journal_other same, wf.versions]
  · intro t
    rw [created.bytes, Function.update_apply]
    by_cases same : t = threadId
    · simp [same, own, numberNewEvents_charge]
    · simp [same, created.journal_other same, wf.charges]
  · intro t
    rw [created.tenant, Function.update_apply]
    by_cases same : t = threadId
    · simp [same, own]
    · simp [same, created.journal_other same, wf.tenants]
  · intro t e head
    by_cases same : t = threadId
    · subst same
      obtain ⟨first, second, rest, rfl, creation, _⟩ := stream.begins
      rw [own] at head
      simp only [numberNewEvents, List.head?_cons, Option.some.injEq] at head
      subst head
      exact creation
    · rw [created.journal_other same] at head
      exact wf.begins t e head

/-- What saving a snapshot leaves alone. -/
theorem saveSnapshot_eq_ok {snapshot : StateSnapshot} (saved : s.saveSnapshot snapshot = .ok s') :
    validateSnapshot snapshot = .ok () ∧
      ∃ snapshots, s' = { s with snapshots } ∧
        ∀ threadId, snapshots threadId = s.snapshots threadId ∨
          (threadId = snapshot.thread.id ∧ snapshots threadId = some snapshot) := by
  simp only [MemoryStore.saveSnapshot, seq_eq_ok, Except.ok.injEq] at saved
  obtain ⟨valid, rfl⟩ := saved
  refine ⟨valid, ?_⟩
  split
  · refine ⟨_, rfl, fun threadId => ?_⟩
    by_cases same : threadId = snapshot.thread.id
    · exact .inr ⟨same, by simp [same]⟩
    · exact .inl (by simp [same])
  · exact ⟨s.snapshots, rfl, fun _ => .inl rfl⟩

theorem StoreWF.with_snapshots {s : MemoryStore} (wf : StoreWF s)
    (snapshots : ThreadId → Option StateSnapshot) : StoreWF { s with snapshots } :=
  ⟨wf.sequences, wf.nodup, wf.valid, wf.versions, wf.charges, wf.tenants, wf.begins⟩

/-- One accepted write of the Event Store. -/
inductive StoreStep (s s' : MemoryStore) : Prop
  | append {pending : PendingEvent} {result : EventAppendResult}
      (appended : s.appendClassified pending = .ok (s', result))
  | create {threadId : ThreadId} {events : List NewStreamEvent} {stored : List StoredEvent}
      (created : s.createStreamAtomic threadId events = .ok (s', stored))
  | snapshot {snapshot : StateSnapshot} (saved : s.saveSnapshot snapshot = .ok s')

/-- The stores some sequence of accepted writes leads to. -/
inductive StoreReachable : MemoryStore → Prop
  | empty : StoreReachable .empty
  | step {s s' : MemoryStore} (reached : StoreReachable s) (step : StoreStep s s') :
      StoreReachable s'

/-- What a write can do to the journal and the live rows. -/
theorem StoreStep.cases_applied (step : StoreStep s s') :
    (∃ pending, Applied s pending s') ∨ (∃ threadId events, Created s threadId events s') ∨
      ∃ snapshots, s' = { s with snapshots } := by
  cases step with
  | append appended =>
    rcases appendClassified_eq_ok.1 appended with ⟨_, rfl, _⟩ | ⟨_, _, applied⟩
    · exact .inr (.inr ⟨s'.snapshots, rfl⟩)
    · exact .inl ⟨_, applied⟩
  | create created => exact .inr (.inl ⟨_, _, (createStreamAtomic_eq_ok created).2⟩)
  | snapshot saved =>
    obtain ⟨_, snapshots, same, _⟩ := saveSnapshot_eq_ok saved
    exact .inr (.inr ⟨snapshots, same⟩)

theorem StoreReachable.wf {s : MemoryStore} (reached : StoreReachable s) : StoreWF s := by
  induction reached with
  | empty => exact empty_wf
  | step _ step wf =>
    rcases step.cases_applied with ⟨_, applied⟩ | ⟨_, _, created⟩ | ⟨snapshots, rfl⟩
    · exact applied.wf wf
    · exact created.wf wf
    · exact wf.with_snapshots snapshots

end YHarness.State

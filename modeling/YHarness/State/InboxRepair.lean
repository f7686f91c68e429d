/-
# YHarness.State.InboxRepair -- the repair outbox and its workers

The outbox is a table of operations; a worker's tick reads a batch of due rows,
has the executor run each one and writes the row back by its identity.  Between the
read and the write a tick works on its own copy of the row, and the write asks
nothing of the row it finds: two ticks that hold a copy of one row overwrite each
other (`overlapping_ticks_reopen`).

`repair_lifecycle` is what the workers do guarantee: as long as no tick reads a row
that another tick has in hand, a settled row stays settled and is not executed
again, attempts only grow and the budget of executions is kept.
-/
import YHarness.Lib.Ledger
import YHarness.State.WaitDue

namespace YHarness.State

open YHarness.Lib YHarness.Kernel

set_option autoImplicit false

/-! ## Rows and policy -/

inductive InboxRepairOpKind where
  | submit | settle | orphanClose
deriving DecidableEq

inductive InboxRepairOpStatus where
  | pending | inFlight | succeeded | exhausted
deriving DecidableEq

/-- `succeeded` and `exhausted` end the life of a row. -/
def InboxRepairOpStatus.isSettled : InboxRepairOpStatus → Bool
  | succeeded | exhausted => true
  | _ => false

structure InboxRepairRetryPolicy where
  maxAttempts : UInt8 := 8
  initialBackoffMs : UInt64 := 100
  maxBackoffMs : UInt64 := 60000

namespace InboxRepairRetryPolicy

/-- A `u64` computed with saturation. -/
def saturated (value : Nat) : UInt64 :=
  UInt64.ofNat (min value (UInt64.size - 1))

def nextAttemptMs (policy : InboxRepairRetryPolicy) (attemptCount : UInt8) (nowMs : UInt64) :
    UInt64 :=
  let shift := min attemptCount.toNat 31
  let backoff := saturated (policy.initialBackoffMs.toNat * 2 ^ shift)
  let backoff := min backoff policy.maxBackoffMs
  saturated (nowMs.toNat + backoff.toNat)

def isExhausted (policy : InboxRepairRetryPolicy) (attemptCount : UInt8) : Bool :=
  decide (policy.maxAttempts ≤ attemptCount)

end InboxRepairRetryPolicy

/-- A row of `inbox_repair_outbox`.  Times are stored as SQLite integers. -/
structure OutboxRow where
  opId : String
  waitId : String
  opKind : InboxRepairOpKind
  payloadJson : List UInt8
  status : InboxRepairOpStatus
  attemptCount : UInt8
  lastAttemptMs : Option Int64
  nextAttemptMs : Int64
  lastError : Option String
  createdMs : Int64
deriving DecidableEq

/-- The copy of a row that a tick works on. -/
structure InboxRepairOpRow where
  opId : String
  waitId : String
  kind : InboxRepairOpKind
  payload : List UInt8
  attemptCount : UInt8
  createdAtMs : UInt64

/-! ## Store calls

The table is listed in the order of insertion, which is also the order in which
the index on `next_attempt_ms` breaks ties. -/

def enqueueRepairOp (rows : List OutboxRow) (nowMs : UInt64) (waitId : String)
    (kind : InboxRepairOpKind) (payload : List UInt8) :
    Except HarnessError (List OutboxRow × String) := do
  validateIdentity "wait" waitId
  let opId := s!"op-{nowMs}"
  -- `op_id` is the primary key
  rejectIf (rows.any fun row => row.opId == opId)
    (.state "UNIQUE constraint failed: inbox_repair_outbox.op_id")
  .ok (rows ++ [⟨opId, waitId, kind, payload, .pending, 0, none, nowMs.toInt64, none,
    nowMs.toInt64⟩], opId)

/-- `i64_to_u64`. -/
def i64ToU64 (value : Int64) (label : String) : Except HarnessError UInt64 := do
  rejectIf (decide (value < 0)) (.state s!"{label} is negative")
  .ok value.toUInt64

def OutboxRow.decode (row : OutboxRow) : Except HarnessError InboxRepairOpRow := do
  let createdAtMs ← i64ToU64 row.createdMs "created_ms"
  .ok ⟨row.opId, row.waitId, row.opKind, row.payloadJson, row.attemptCount, createdAtMs⟩

/-- `LIMIT ?`, where a negative limit is none. -/
def limited {α : Type} (maxOps : UInt64) (rows : List α) : List α :=
  if maxOps.toInt64 < 0 then rows else rows.take maxOps.toNat

def dueRows (rows : List OutboxRow) (nowMs maxOps : UInt64) : List OutboxRow :=
  limited maxOps ((rows.filter fun row =>
    row.status == .pending && decide (row.nextAttemptMs ≤ nowMs.toInt64)).mergeSort
      fun left right => decide (left.nextAttemptMs ≤ right.nextAttemptMs))

def fetchPendingRepairOps (rows : List OutboxRow) (nowMs maxOps : UInt64) :
    Except HarnessError (List InboxRepairOpRow) :=
  if maxOps = 0 then .ok [] else (dueRows rows nowMs maxOps).mapM OutboxRow.decode

/-- `UPDATE inbox_repair_outbox SET .. WHERE op_id = ?`. -/
def updateRow (rows : List OutboxRow) (opId : String) (set : OutboxRow → OutboxRow) :
    List OutboxRow :=
  rows.map fun row => if row.opId = opId then set row else row

def updateRepairOpStatus (rows : List OutboxRow) (nowMs : UInt64) (opId : String)
    (status : InboxRepairOpStatus) (lastError : Option String) :
    Except HarnessError (List OutboxRow) := do
  validateIdentity "op" opId
  .ok (updateRow rows opId fun row => { row with
    status := status
    lastError := lastError
    lastAttemptMs := some nowMs.toInt64 })

def rescheduleRepairOp (rows : List OutboxRow) (nowMs : UInt64) (opId : String)
    (attemptCount : UInt8) (nextAttemptMs : UInt64) : Except HarnessError (List OutboxRow) := do
  validateIdentity "op" opId
  .ok (updateRow rows opId fun row => { row with
    status := .pending
    attemptCount := attemptCount
    nextAttemptMs := nextAttemptMs.toInt64
    lastAttemptMs := some nowMs.toInt64 })

/-! ## Ticks -/

inductive InboxRepairExecuteOutcome where
  | succeeded | retryable | nonRetryable

structure InboxRepairTickOutcome where
  scanned : Nat := 0
  succeeded : Nat := 0
  exhausted : Nat := 0
  retried : Nat := 0
  durationMs : UInt64 := 0

/-- The write a tick owes for a row it has executed: `mark_succeeded`,
`mark_exhausted` or `schedule_retry`. -/
inductive RepairWrite where
  | markSucceeded
  | markExhausted (reason : String)
  | scheduleRetry (newAttempt : UInt8) (nextAtMs : UInt64)

/-- What the answer of the executor makes of a row. -/
def repairWrite (policy : InboxRepairRetryPolicy) (nowMs : UInt64) (row : InboxRepairOpRow) :
    Except HarnessError InboxRepairExecuteOutcome → RepairWrite
  | .error error => .markExhausted s!"executor_error: {error.display}"
  | .ok .succeeded => .markSucceeded
  | .ok .retryable =>
    let newAttempt := UInt8.ofNat (min (row.attemptCount.toNat + 1) 255)
    if policy.isExhausted newAttempt then .markExhausted "retry_budget_exhausted"
    else .scheduleRetry newAttempt (policy.nextAttemptMs newAttempt nowMs)
  | .ok .nonRetryable => .markExhausted "non_retryable"

namespace RepairWrite

def perform (write : RepairWrite) (rows : List OutboxRow) (nowMs : UInt64) (opId : String) :
    Except HarnessError (List OutboxRow) :=
  match write with
  | markSucceeded => updateRepairOpStatus rows nowMs opId .succeeded none
  | markExhausted reason => updateRepairOpStatus rows nowMs opId .exhausted (some reason)
  | scheduleRetry newAttempt nextAtMs => rescheduleRepairOp rows nowMs opId newAttempt nextAtMs

def count (write : RepairWrite) (outcome : InboxRepairTickOutcome) : InboxRepairTickOutcome :=
  match write with
  | markSucceeded => { outcome with succeeded := outcome.succeeded + 1 }
  | markExhausted _ => { outcome with exhausted := outcome.exhausted + 1 }
  | scheduleRetry _ _ => { outcome with retried := outcome.retried + 1 }

end RepairWrite

/-- Where a tick stands between two of its calls. -/
inductive TickPhase where
  | fetching (maxOps : UInt64)
  | working (rows : List InboxRepairOpRow)
  | settling (row : InboxRepairOpRow) (write : RepairWrite) (rows : List InboxRepairOpRow)
  | ended (result : Except HarnessError InboxRepairTickOutcome)

structure Tick where
  startedMs : UInt64
  outcome : InboxRepairTickOutcome
  phase : TickPhase

/-- The rows a tick has read and not written back. -/
def Tick.held (tick : Tick) : List InboxRepairOpRow :=
  match tick.phase with
  | .working rows => rows
  | .settling row _ rows => row :: rows
  | _ => []

/-- The outbox, the ticks started so far, and the identities of the rows in the
order in which the executor ran them. -/
structure Outbox where
  rows : List OutboxRow
  ticks : List Tick
  executed : List String

def Outbox.empty : Outbox :=
  ⟨[], [], []⟩

/-- One atomic step of a caller or of a worker, with the clock it reads; `answer`
is what the executor answers if the step executes a row. -/
inductive RepairAction where
  | enqueue (nowMs : UInt64) (waitId : String) (kind : InboxRepairOpKind) (payload : List UInt8)
  | start (nowMs maxOps : UInt64)
  | advance (index : Nat) (nowMs : UInt64) (answer : Except HarnessError InboxRepairExecuteOutcome)
  | abandon (index : Nat)

namespace Outbox

def setPhase (w : Outbox) (index : Nat) (tick : Tick) (phase : TickPhase) : Outbox :=
  { w with ticks := w.ticks.set index { tick with phase := phase } }

/-- The next call of a tick. -/
def advanceTick (policy : InboxRepairRetryPolicy) (w : Outbox) (index : Nat) (tick : Tick)
    (nowMs : UInt64) (answer : Except HarnessError InboxRepairExecuteOutcome) : Outbox :=
  match tick.phase with
  | .fetching maxOps =>
    match fetchPendingRepairOps w.rows nowMs maxOps with
    | .error error => w.setPhase index tick (.ended (.error error))
    | .ok rows =>
      w.setPhase index { tick with outcome.scanned := rows.length } (.working rows)
  | .working [] =>
    w.setPhase index tick
      (.ended (.ok { tick.outcome with durationMs := nowMs - min tick.startedMs nowMs }))
  | .working (row :: rows) =>
    { w with executed := w.executed ++ [row.opId] }.setPhase index tick
      (.settling row (repairWrite policy nowMs row answer) rows)
  | .settling row write rows =>
    match write.perform w.rows nowMs row.opId with
    | .error error => w.setPhase index tick (.ended (.error error))
    | .ok written =>
      { w with rows := written }.setPhase index
        { tick with outcome := write.count tick.outcome } (.working rows)
  | .ended _ => w

def act (policy : InboxRepairRetryPolicy) (w : Outbox) : RepairAction → Outbox
  | .enqueue nowMs waitId kind payload =>
    match enqueueRepairOp w.rows nowMs waitId kind payload with
    | .ok (rows, _) => { w with rows := rows }
    | .error _ => w
  | .start nowMs maxOps => { w with ticks := w.ticks ++ [⟨nowMs, {}, .fetching maxOps⟩] }
  | .advance index nowMs answer =>
    match w.ticks[index]? with
    | some tick => w.advanceTick policy index tick nowMs answer
    | none => w
  -- a tick that is dropped between two rows; one that is dropped before it has
  -- written what it executed is a tick that never moves again
  | .abandon index =>
    match w.ticks[index]? with
    | some ⟨startedMs, outcome, .working _⟩ =>
      w.setPhase index ⟨startedMs, outcome, .working []⟩ (.working [])
    | _ => w

def run (policy : InboxRepairRetryPolicy) (w : Outbox) (actions : List RepairAction) : Outbox :=
  actions.foldl (act policy) w

/-- How often the executor ran a row. -/
def executions (w : Outbox) (opId : String) : Nat :=
  w.executed.count opId

/-- The row of an identity. -/
def row? (w : Outbox) (opId : String) : Option OutboxRow :=
  w.rows.find? fun row => row.opId == opId

/-- What the outbox promises between two moments of a run. -/
structure Lifecycle (policy : InboxRepairRetryPolicy) (w w' : Outbox) : Prop where
  settled : ∀ (opId : String) (row : OutboxRow), w.row? opId = some row →
    row.status.isSettled = true → ∃ row', w'.row? opId = some row' ∧ row'.status ≠ .pending ∧
      w'.executions opId = w.executions opId
  attempts : ∀ (opId : String) (row : OutboxRow), w.row? opId = some row →
    ∃ row', w'.row? opId = some row' ∧ row.attemptCount ≤ row'.attemptCount
  budget : ∀ opId : String, w'.executions opId ≤ policy.maxAttempts.toNat

/-- Two workers read one row; the first executes it and marks it `succeeded`. -/
def overlapFirst : List RepairAction :=
  [.enqueue 5 "wait-1" .submit [], .start 10 16, .start 10 16,
    .advance 0 11 (.ok .succeeded), .advance 1 11 (.ok .succeeded),
    .advance 0 12 (.ok .succeeded), .advance 0 13 (.ok .succeeded)]

/-- The second, whose copy is older, executes it again and makes it pending. -/
def overlapSecond : List RepairAction :=
  [.advance 1 14 (.ok .retryable), .advance 1 15 (.ok .succeeded)]

theorem overlapping_ticks_reopen :
    ¬ ∀ (actions more : List RepairAction),
      Lifecycle {} (run {} empty actions) (run {} (run {} empty actions) more) := by
  intro promised
  obtain ⟨row, found, stays, _⟩ := (promised overlapFirst overlapSecond).settled "op-5"
    ⟨"op-5", "wait-1", .submit, [], .succeeded, 0, some 13, 5, none, 5⟩ (by decide +kernel) rfl
  have reopened : (row? (run {} (run {} empty overlapFirst) overlapSecond) "op-5").map
      (fun row => row.status) = some .pending := by decide +kernel
  rw [found, Option.map_some, Option.some.injEq] at reopened
  exact stays reopened

/-! ## Lookups -/

variable {w : Outbox} {row : OutboxRow} {copies : List InboxRepairOpRow}
  {set : OutboxRow → OutboxRow}

theorem row?_opId {opId : String} (found : w.row? opId = some row) :
    row.opId = opId := by
  simpa using List.find?_some found

theorem row?_of_mem (distinct : (w.rows.map (·.opId)).Nodup) (member : row ∈ w.rows) :
    w.row? row.opId = some row :=
  (find?_key_eq_some distinct).2 ⟨member, rfl⟩

theorem row?_update {opId : String} (keeps : ∀ row, (set row).opId = row.opId) (other : String) :
    { w with rows := updateRow w.rows opId set }.row? other =
      (w.row? other).map fun row => if other = opId then set row else row := by
  have matched : ((fun row : OutboxRow => row.opId == other) ∘ fun row : OutboxRow =>
      if row.opId = opId then set row else row) = fun row => row.opId == other := by
    funext row
    by_cases here : row.opId = opId
    · simp [here, keeps]
    · simp [here]
  simp only [row?, updateRow, List.find?_map, matched]
  apply Option.map_congr
  intro row found
  have key := row?_opId (w := w) found
  simp [key]

theorem map_opId_update (rows : List OutboxRow) {opId : String}
    (keeps : ∀ row, (set row).opId = row.opId) :
    (updateRow rows opId set).map (·.opId) = rows.map (·.opId) := by
  simp only [updateRow, List.map_map]
  apply List.map_congr_left
  intro row _
  by_cases here : row.opId = opId
  · simp [here, keeps]
  · simp [here]

/-- A tick reads distinct pending rows, with their attempts. -/
structure Fetched (w : Outbox) (copies : List InboxRepairOpRow) : Prop where
  distinct : (copies.map (·.opId)).Nodup
  pending : ∀ copy ∈ copies, ∃ row, w.row? copy.opId = some row ∧ row.status = .pending ∧
    row.attemptCount = copy.attemptCount

theorem decode_eq_ok {copy : InboxRepairOpRow} (decoded : row.decode = .ok copy) :
    copy.opId = row.opId ∧ copy.attemptCount = row.attemptCount := by
  obtain ⟨createdAtMs, _, ended⟩ := bind_eq_ok.1 decoded
  cases ended
  exact ⟨rfl, rfl⟩

theorem map_opId_decoded {rows : List OutboxRow}
    (decoded : List.Forall₂ (fun row copy => row.decode = .ok copy) rows copies) :
    copies.map (·.opId) = rows.map (·.opId) := by
  induction decoded with
  | nil => rfl
  | cons first _ ih => rw [List.map_cons, List.map_cons, ih, (decode_eq_ok first).1]

theorem sublist_limited {α : Type} (maxOps : UInt64) (rows : List α) :
    (limited maxOps rows).Sublist rows := by
  unfold limited
  split
  · exact .refl rows
  · exact List.take_sublist _ _

theorem fetched_of_fetch (distinct : (w.rows.map (·.opId)).Nodup) {nowMs maxOps : UInt64}
    (fetched : fetchPendingRepairOps w.rows nowMs maxOps = .ok copies) : w.Fetched copies := by
  unfold fetchPendingRepairOps at fetched
  split at fetched
  · cases fetched
    exact ⟨by simp, by simp⟩
  · rw [mapM_eq_ok] at fetched
    refine ⟨?_, ?_⟩
    · rw [map_opId_decoded fetched]
      refine ((sublist_limited maxOps _).map _).nodup ?_
      refine ((List.mergeSort_perm _ _).map _).nodup_iff.2 ?_
      exact (List.filter_sublist.map _).nodup distinct
    · intro copy member
      obtain ⟨row, due, decoded⟩ := forall₂_exists_left fetched member
      obtain ⟨key, attempts⟩ := decode_eq_ok decoded
      have listed := (sublist_limited maxOps _).subset due
      rw [List.mem_mergeSort, List.mem_filter, Bool.and_eq_true, beq_iff_eq] at listed
      exact ⟨row, key ▸ row?_of_mem distinct listed.1, listed.2.1, attempts.symm⟩

/-! ## The condition and the invariant -/

/-- The rows that the next call of a tick reads. -/
def reads (w : Outbox) (index : Nat) (nowMs : UInt64) : List InboxRepairOpRow :=
  match w.ticks[index]? with
  | some ⟨_, _, .fetching maxOps⟩ =>
    ((fetchPendingRepairOps w.rows nowMs maxOps).toOption).getD []
  | _ => []

/-- No row that the step reads is in the hands of a tick. -/
def Exclusive (w : Outbox) : RepairAction → Prop
  | .advance index nowMs _ => ∀ row ∈ w.reads index nowMs, ∀ other ∈ w.ticks,
      ∀ copy ∈ other.held, row.opId ≠ copy.opId
  | _ => True

instance (w : Outbox) : (action : RepairAction) → Decidable (w.Exclusive action)
  | .advance index nowMs _ => inferInstanceAs (Decidable (∀ row ∈ w.reads index nowMs,
      ∀ other ∈ w.ticks, ∀ copy ∈ other.held, row.opId ≠ copy.opId))
  | .enqueue .. => inferInstanceAs (Decidable True)
  | .start .. => inferInstanceAs (Decidable True)
  | .abandon .. => inferInstanceAs (Decidable True)

/-- Every step of the run meets the condition. -/
def Orderly (policy : InboxRepairRetryPolicy) : Outbox → List RepairAction → Prop
  | _, [] => True
  | w, action :: rest => w.Exclusive action ∧ Orderly policy (w.act policy action) rest

instance (policy : InboxRepairRetryPolicy) :
    ∀ (w : Outbox) (actions : List RepairAction), Decidable (Orderly policy w actions)
  | _, [] => inferInstanceAs (Decidable True)
  | w, action :: rest =>
    have := instDecidableOrderly policy (w.act policy action) rest
    inferInstanceAs (Decidable (w.Exclusive action ∧ Orderly policy (w.act policy action) rest))

end Outbox

/-- The tick has executed the row and not written it. -/
def Tick.Owes (tick : Tick) (opId : String) : Prop :=
  ∃ row write rows, tick.phase = .settling row write rows ∧ row.opId = opId

theorem Tick.Owes.held {tick : Tick} {opId : String} (owes : tick.Owes opId) :
    ∃ copy ∈ tick.held, copy.opId = opId := by
  obtain ⟨row, write, rows, phase, rfl⟩ := owes
  exact ⟨row, by simp [Tick.held, phase], rfl⟩

/-- A retry counts one attempt more and is within the budget. -/
def RepairWrite.Due (policy : InboxRepairRetryPolicy) (row : InboxRepairOpRow)
    (write : RepairWrite) : Prop :=
  ∀ newAttempt nextAtMs, write = .scheduleRetry newAttempt nextAtMs →
    newAttempt.toNat = row.attemptCount.toNat + 1 ∧ newAttempt < policy.maxAttempts

theorem repairWrite_due (policy : InboxRepairRetryPolicy) (nowMs : UInt64) (row : InboxRepairOpRow)
    (within : row.attemptCount.toNat < policy.maxAttempts.toNat)
    (answer : Except HarnessError InboxRepairExecuteOutcome) :
    (repairWrite policy nowMs row answer).Due policy row := by
  intro newAttempt nextAtMs shape
  have small : policy.maxAttempts.toNat < 256 := policy.maxAttempts.toNat_lt
  unfold repairWrite at shape
  split at shape
  · cases shape
  · cases shape
  · dsimp only at shape
    split at shape
    · cases shape
    · rename_i remains
      cases shape
      rw [InboxRepairRetryPolicy.isExhausted, decide_eq_true_eq, UInt8.not_le] at remains
      refine ⟨?_, remains⟩
      rw [UInt8.toNat_ofNat']
      omega
  · cases shape

namespace Outbox

/-- Some tick owes the write of the row. -/
def Owed (w : Outbox) (opId : String) : Prop :=
  ∃ (index : Nat) (tick : Tick), w.ticks[index]? = some tick ∧ tick.Owes opId

def OwedElsewhere (w : Outbox) (index : Nat) (opId : String) : Prop :=
  ∃ (other : Nat) (tick : Tick), other ≠ index ∧ w.ticks[other]? = some tick ∧ tick.Owes opId

variable {index : Nat} {ticks : List Tick} {tick new : Tick}

theorem owed_iff {w : Outbox} {tick : Tick} (here : w.ticks[index]? = some tick) {opId : String} :
    w.Owed opId ↔ tick.Owes opId ∨ w.OwedElsewhere index opId := by
  constructor
  · rintro ⟨other, same, there, owes⟩
    by_cases equal : other = index
    · subst equal
      rw [here, Option.some.injEq] at there
      exact .inl (there ▸ owes)
    · exact .inr ⟨other, same, equal, there, owes⟩
  · rintro (owes | ⟨other, same, _, there, owes⟩)
    · exact ⟨index, tick, here, owes⟩
    · exact ⟨other, same, there, owes⟩

theorem getElem?_set_cases {index other : Nat} {tick new found : Tick}
    (here : ticks[index]? = some tick) :
    (ticks.set index new)[other]? = some found ↔
      (other = index ∧ found = new) ∨ (other ≠ index ∧ ticks[other]? = some found) := by
  have bound : index < ticks.length := (List.getElem?_eq_some_iff.1 here).1
  rw [List.getElem?_set]
  by_cases same : index = other
  · subst same
    simp [bound, eq_comm]
  · simp [same, Ne.symm same]

/-- The ticks after one of them moved. -/
theorem owed_set {w w' : Outbox} (here : w.ticks[index]? = some tick)
    (moved : w'.ticks = w.ticks.set index new) {opId : String} :
    w'.Owed opId ↔ new.Owes opId ∨ w.OwedElsewhere index opId := by
  unfold Owed
  simp only [moved, getElem?_set_cases here]
  constructor
  · rintro ⟨other, found, ⟨rfl, rfl⟩ | ⟨apart, there⟩, owes⟩
    · exact .inl owes
    · exact .inr ⟨other, found, apart, there, owes⟩
  · rintro (owes | ⟨other, found, apart, there, owes⟩)
    · exact ⟨index, new, .inl ⟨rfl, rfl⟩, owes⟩
    · exact ⟨other, found, .inr ⟨apart, there⟩, owes⟩

/-- No row is in the hands of two ticks. -/
structure Apart (ticks : List Tick) : Prop where
  owned : ∀ (index : Nat) (tick : Tick), ticks[index]? = some tick →
    (tick.held.map (·.opId)).Nodup
  disjoint : ∀ (first second : Nat) (tick other : Tick), first ≠ second →
    ticks[first]? = some tick → ticks[second]? = some other →
      ∀ a ∈ tick.held, ∀ b ∈ other.held, a.opId ≠ b.opId

theorem Apart.set (apart : Apart ticks) (here : ticks[index]? = some tick)
    (owned : (new.held.map (·.opId)).Nodup)
    (free : ∀ (other : Nat) (there : Tick), other ≠ index → ticks[other]? = some there →
      ∀ a ∈ new.held, ∀ b ∈ there.held, a.opId ≠ b.opId) : Apart (ticks.set index new) := by
  refine ⟨?_, ?_⟩
  · intro other found there
    rcases (getElem?_set_cases here).1 there with ⟨rfl, rfl⟩ | ⟨_, there⟩
    · exact owned
    · exact apart.owned other found there
  · intro first second left right different atFirst atSecond a among b between
    rcases (getElem?_set_cases here).1 atFirst with ⟨rfl, rfl⟩ | ⟨away, there⟩
    · rcases (getElem?_set_cases here).1 atSecond with ⟨rfl, rfl⟩ | ⟨away, there⟩
      · exact absurd rfl different
      · exact free second right away there a among b between
    · rcases (getElem?_set_cases here).1 atSecond with ⟨rfl, rfl⟩ | ⟨away', there'⟩
      · exact (free first left away there b between a among).symm
      · exact apart.disjoint first second left right different there there' a among b between

/-- A tick that keeps some of its rows. -/
theorem Apart.keep (apart : Apart ticks) (here : ticks[index]? = some tick)
    (kept : new.held.Sublist tick.held) :
    Apart (ticks.set index new) := by
  refine apart.set here ((kept.map _).nodup (apart.owned index tick here)) ?_
  intro other there away found a among b between
  exact apart.disjoint index other tick there (Ne.symm away) here found a (kept.subset among) b
    between

/-- The row of a copy is pending, with the attempts of the copy. -/
def Current (w : Outbox) (copy : InboxRepairOpRow) : Prop :=
  ∃ row, w.row? copy.opId = some row ∧ row.status = .pending ∧
    row.attemptCount = copy.attemptCount

/-- What an orderly run keeps: ticks hold current copies of different rows, and
every execution is counted as an attempt, owed by a tick or the last of its row. -/
structure Steady (policy : InboxRepairRetryPolicy) (w : Outbox) : Prop where
  distinct : (w.rows.map (·.opId)).Nodup
  named : ∀ opId ∈ w.rows.map (·.opId), validateIdentity "op" opId = .ok ()
  apart : Apart w.ticks
  current : ∀ (index : Nat) (tick : Tick), w.ticks[index]? = some tick →
    ∀ copy ∈ tick.held, w.Current copy
  due : ∀ (index : Nat) (tick : Tick), w.ticks[index]? = some tick →
    ∀ row write rows, tick.phase = .settling row write rows → write.Due policy row
  unknown : ∀ opId : String, w.row? opId = none → w.executions opId = 0
  within : ∀ (opId : String) (row : OutboxRow), w.row? opId = some row → row.status = .pending →
    row.attemptCount.toNat < policy.maxAttempts.toNat
  idle : ∀ (opId : String) (row : OutboxRow), w.row? opId = some row → row.status = .pending →
    ¬ w.Owed opId → w.executions opId = row.attemptCount.toNat
  owed : ∀ (opId : String) (row : OutboxRow), w.row? opId = some row → w.Owed opId →
    w.executions opId = row.attemptCount.toNat + 1
  spent : ∀ (opId : String) (row : OutboxRow), w.row? opId = some row → row.status ≠ .pending →
    w.executions opId ≤ policy.maxAttempts.toNat

/-! ## Steps of a tick -/

section Step

variable {policy : InboxRepairRetryPolicy} {w : Outbox} {index : Nat} {tick : Tick}

variable {copy : InboxRepairOpRow}

/-- What a tick holds is owed by no other. -/
theorem Steady.not_elsewhere (steady : w.Steady policy) (here : w.ticks[index]? = some tick)
    (held : copy ∈ tick.held) : ¬ w.OwedElsewhere index copy.opId := by
  rintro ⟨other, there, away, found, owes⟩
  obtain ⟨same, among, key⟩ := owes.held
  exact steady.apart.disjoint index other tick there (Ne.symm away) here found copy held same
    among key.symm

/-- A tick that executes and writes nothing: it reads its batch or gives rows
back. -/
theorem Steady.move (steady : w.Steady policy) (here : w.ticks[index]? = some tick) {new : Tick}
    (apart : Apart (w.ticks.set index new)) (current : ∀ copy ∈ new.held, w.Current copy)
    (before : ∀ opId, ¬ tick.Owes opId) (after : ∀ opId, ¬ new.Owes opId) :
    { w with ticks := w.ticks.set index new }.Steady policy := by
  have same : ∀ {opId}, { w with ticks := w.ticks.set index new }.Owed opId ↔ w.Owed opId := by
    intro opId
    rw [owed_set here rfl, owed_iff here]
    simp [before, after]
  refine ⟨steady.distinct, steady.named, apart, ?_, ?_, steady.unknown, steady.within, ?_, ?_,
    steady.spent⟩
  · intro other found there
    rcases (getElem?_set_cases here).1 there with ⟨rfl, rfl⟩ | ⟨_, there⟩
    · exact current
    · exact steady.current other found there
  · intro other found there row write rows phase
    rcases (getElem?_set_cases here).1 there with ⟨rfl, rfl⟩ | ⟨_, there⟩
    · exact absurd ⟨row, write, rows, phase, rfl⟩ (after row.opId)
    · exact steady.due other found there row write rows phase
  · intro opId row found pending free
    exact steady.idle opId row found pending fun owed => free (same.2 owed)
  · intro opId row found owed
    exact steady.owed opId row found (same.1 owed)

/-- The executor runs the first row of the batch. -/
theorem Steady.execute (steady : w.Steady policy) (here : w.ticks[index]? = some tick)
    {row : InboxRepairOpRow} {rows : List InboxRepairOpRow} {write : RepairWrite}
    (phase : tick.phase = .working (row :: rows)) (due : write.Due policy row) {w' : Outbox}
    {new : Tick} (moved : w'.ticks = w.ticks.set index new)
    (settles : new.phase = .settling row write rows)
    (table : w'.rows = w.rows) (logged : w'.executed = w.executed ++ [row.opId]) :
    w'.Steady policy := by
  have holds : tick.held = row :: rows := by simp [Tick.held, phase]
  have kept : new.held = tick.held := by simp [Tick.held, phase, settles]
  have held : row ∈ tick.held := by simp [holds]
  have lookup : w'.row? = w.row? := by
    funext opId
    simp [row?, table]
  obtain ⟨stored, found, pending, attempts⟩ := steady.current index tick here row held
  have idleTick : ∀ opId, ¬ tick.Owes opId := by
    rintro opId ⟨_, _, _, other, _⟩
    rw [phase] at other
    cases other
  have unowed : ¬ w.Owed row.opId := by
    rw [owed_iff here, not_or]
    exact ⟨idleTick _, steady.not_elsewhere here held⟩
  have owed : ∀ {opId}, w'.Owed opId ↔ row.opId = opId ∨ w.Owed opId := by
    intro opId
    rw [owed_set here moved, owed_iff here]
    simp [Tick.Owes, settles, phase]
  have counted : ∀ opId,
      w'.executions opId = w.executions opId + if row.opId = opId then 1 else 0 := by
    intro opId
    simp [executions, logged, List.count_append, List.count_singleton]
  have idle := steady.idle row.opId stored found pending unowed
  refine ⟨table ▸ steady.distinct, table ▸ steady.named,
    moved ▸ steady.apart.keep here (kept ▸ .refl _), ?_, ?_, ?_, ?_, ?_, ?_, ?_⟩
  · intro other there present
    unfold Current
    rw [lookup]
    rw [moved] at present
    rcases (getElem?_set_cases here).1 present with ⟨rfl, rfl⟩ | ⟨_, present⟩
    · rw [kept]
      exact steady.current other tick here
    · exact steady.current other there present
  · intro other there present row' write' rows' settles'
    rw [moved] at present
    rcases (getElem?_set_cases here).1 present with ⟨rfl, rfl⟩ | ⟨_, present⟩
    · rw [settles] at settles'
      cases settles'
      exact due
    · exact steady.due other there present row' write' rows' settles'
  · intro opId missing
    rw [lookup] at missing
    have different : row.opId ≠ opId := by
      rintro rfl
      rw [missing] at found
      cases found
    rw [counted, if_neg different]
    exact steady.unknown opId missing
  · rw [lookup]
    exact steady.within
  · intro opId other known waits free
    rw [lookup] at known
    rw [owed, not_or] at free
    rw [counted, if_neg free.1]
    exact steady.idle opId other known waits free.2
  · intro opId other known isOwed
    rw [lookup] at known
    rw [counted]
    by_cases same : row.opId = opId
    · subst same
      rw [known, Option.some.injEq] at found
      subst found
      rw [if_pos rfl, idle]
    · rw [if_neg same]
      exact steady.owed opId other known ((owed.1 isOwed).resolve_left same)
  · intro opId other known settled
    rw [lookup] at known
    have different : row.opId ≠ opId := by
      rintro rfl
      rw [known, Option.some.injEq] at found
      subst found
      exact settled pending
    rw [counted, if_neg different]
    exact steady.spent opId other known settled

/-- What a write makes of its row. -/
structure Written (policy : InboxRepairRetryPolicy) (w w' : Outbox) (copy : InboxRepairOpRow) :
    Prop where
  ids : w'.rows.map (·.opId) = w.rows.map (·.opId)
  others : ∀ opId, opId ≠ copy.opId → w'.row? opId = w.row? opId
  mine : ∀ row, w.row? copy.opId = some row → ∃ row', w'.row? copy.opId = some row' ∧
    (row'.status = .pending ∧ row'.attemptCount.toNat = copy.attemptCount.toNat + 1 ∧
        row'.attemptCount < policy.maxAttempts ∨
      row'.status.isSettled = true ∧ row'.attemptCount = row.attemptCount)

/-- An update by identity. -/
theorem written_of_update {set : OutboxRow → OutboxRow} (keeps : ∀ row, (set row).opId = row.opId)
    (sets : ∀ row, (set row).status = .pending ∧
        (set row).attemptCount.toNat = copy.attemptCount.toNat + 1 ∧
        (set row).attemptCount < policy.maxAttempts ∨
      (set row).status.isSettled = true ∧ (set row).attemptCount = row.attemptCount) :
    Written policy w { w with rows := updateRow w.rows copy.opId set } copy := by
  refine ⟨map_opId_update w.rows keeps, ?_, ?_⟩
  · intro opId different
    rw [row?_update keeps]
    simp [different]
  · intro row found
    refine ⟨set row, ?_, sets row⟩
    rw [row?_update keeps, found]
    simp

theorem written_of_perform {write : RepairWrite} (due : write.Due policy copy) {nowMs : UInt64}
    {rows : List OutboxRow} (performed : write.perform w.rows nowMs copy.opId = .ok rows) :
    Written policy w { w with rows := rows } copy := by
  unfold RepairWrite.perform at performed
  split at performed
  · obtain ⟨_, ended⟩ := seq_eq_ok.1 performed
    cases ended
    exact written_of_update (fun _ => rfl) fun _ => .inr ⟨rfl, rfl⟩
  · obtain ⟨_, ended⟩ := seq_eq_ok.1 performed
    cases ended
    exact written_of_update (fun _ => rfl) fun _ => .inr ⟨rfl, rfl⟩
  · obtain ⟨_, ended⟩ := seq_eq_ok.1 performed
    cases ended
    obtain ⟨next, below⟩ := due _ _ rfl
    exact written_of_update (fun _ => rfl) fun _ => .inl ⟨rfl, next, below⟩

/-- The write of an executed row. -/
theorem Steady.settle (steady : w.Steady policy) (here : w.ticks[index]? = some tick)
    {row : InboxRepairOpRow} {rows : List InboxRepairOpRow} {write : RepairWrite}
    (phase : tick.phase = .settling row write rows) {w' : Outbox} {new : Tick}
    (moved : w'.ticks = w.ticks.set index new) (goesOn : new.phase = .working rows)
    (written : Written policy w w' row) (executed : w'.executed = w.executed) :
    w'.Steady policy := by
  have holds : tick.held = row :: rows := by simp [Tick.held, phase]
  have keeps : new.held = rows := by simp [Tick.held, goesOn]
  have held : row ∈ tick.held := by simp [holds]
  have counted : w'.executions = w.executions := by
    funext opId
    simp [executions, executed]
  obtain ⟨stored, found, pending, attempts⟩ := steady.current index tick here row held
  have owing : w.Owed row.opId := ⟨index, tick, here, row, write, rows, phase, rfl⟩
  have total := steady.owed row.opId stored found owing
  have within := steady.within row.opId stored found pending
  have idleNew : ∀ opId, ¬ new.Owes opId := by
    rintro opId ⟨_, _, _, other, _⟩
    rw [goesOn] at other
    cases other
  have paid : ¬ w'.Owed row.opId := by
    rw [owed_set here moved, not_or]
    exact ⟨idleNew _, steady.not_elsewhere here held⟩
  have owed : ∀ {opId}, opId ≠ row.opId → (w'.Owed opId ↔ w.Owed opId) := by
    intro opId different
    have mine : ¬ tick.Owes opId := by
      rintro ⟨_, _, _, other, same⟩
      rw [phase] at other
      cases other
      exact different same.symm
    rw [owed_set here moved, owed_iff here]
    simp [idleNew, mine]
  obtain ⟨stored', found', result⟩ := written.mine stored found
  -- the copies of the other rows are still current
  have current : ∀ copy, copy.opId ≠ row.opId → w.Current copy → w'.Current copy := by
    rintro copy different ⟨other, known, rest⟩
    exact ⟨other, by rw [written.others _ different, known], rest⟩
  have tail : (row.opId :: rows.map (·.opId)).Nodup := by
    have owned := steady.apart.owned index tick here
    rwa [holds] at owned
  refine ⟨written.ids ▸ steady.distinct, written.ids ▸ steady.named,
    moved ▸ steady.apart.keep here (by rw [keeps, holds]; exact List.sublist_cons_self _ _),
    ?_, ?_, ?_, ?_, ?_, ?_, ?_⟩
  · intro other there present copy among
    rw [moved] at present
    rcases (getElem?_set_cases here).1 present with ⟨rfl, rfl⟩ | ⟨away, present⟩
    · rw [keeps] at among
      refine current copy ?_ (steady.current other tick here copy (by simp [holds, among]))
      intro same
      exact (List.nodup_cons.1 tail).1 (same ▸ List.mem_map_of_mem among)
    · refine current copy ?_ (steady.current other there present copy among)
      exact (steady.apart.disjoint index other tick there (Ne.symm away) here present row held copy
        among).symm
  · intro other there present row' write' rows' settles
    rw [moved] at present
    rcases (getElem?_set_cases here).1 present with ⟨rfl, rfl⟩ | ⟨_, present⟩
    · rw [goesOn] at settles
      cases settles
    · exact steady.due other there present row' write' rows' settles
  · intro opId missing
    have different : opId ≠ row.opId := by
      rintro rfl
      rw [found'] at missing
      cases missing
    rw [written.others opId different] at missing
    rw [counted]
    exact steady.unknown opId missing
  · intro opId other known waits
    by_cases same : opId = row.opId
    · subst same
      rw [found', Option.some.injEq] at known
      subst known
      rcases result with ⟨_, _, below⟩ | ⟨settled, _⟩
      · exact UInt8.lt_iff_toNat_lt.1 below
      · rw [waits] at settled
        cases settled
    · rw [written.others opId same] at known
      exact steady.within opId other known waits
  · intro opId other known waits free
    rw [counted]
    by_cases same : opId = row.opId
    · subst same
      rw [found', Option.some.injEq] at known
      subst known
      rcases result with ⟨_, next, _⟩ | ⟨settled, _⟩
      · rw [total, next, attempts]
      · rw [waits] at settled
        cases settled
    · rw [written.others opId same] at known
      exact steady.idle opId other known waits fun isOwed => free ((owed same).2 isOwed)
  · intro opId other known isOwed
    have different : opId ≠ row.opId := by
      rintro rfl
      exact paid isOwed
    rw [written.others opId different] at known
    rw [counted]
    exact steady.owed opId other known ((owed different).1 isOwed)
  · intro opId other known settled
    rw [counted]
    by_cases same : opId = row.opId
    · subst same
      omega
    · rw [written.others opId same] at known
      exact steady.spent opId other known settled

end Step

/-! ## New rows -/

theorem not_isControl_of_isDigit {c : Char} (digit : c.isDigit = true) : isControl c = false := by
  simp only [Char.isDigit, Bool.and_eq_true, decide_eq_true_eq, ge_iff_le,
    UInt32.le_iff_toNat_le, Char.reduceVal, UInt32.reduceToNat] at digit
  exact not_isControl (by omega) (by omega)

theorem utf8ByteSize_le (s : String) : s.utf8ByteSize ≤ 4 * s.toList.length := by
  rw [← utf8Bytes_length, utf8Bytes_eq]
  induction s.toList with
  | nil => simp
  | cons c cs ih =>
    have single := c.utf8Size_le_four
    rw [List.flatMap_cons, List.length_append, String.length_utf8EncodeChar, List.length_cons]
    omega

/-- The identity of a new row is accepted by every later write. -/
theorem validateIdentity_opId (nowMs : UInt64) :
    validateIdentity "op" s!"op-{nowMs}" = .ok () := by
  have text : (s!"op-{nowMs}").toList = ['o', 'p', '-'] ++ Nat.toDigits 10 nowMs.toNat := by
    simp [toString]
  have short : (s!"op-{nowMs}").utf8ByteSize ≤ 256 := by
    have digits := toDigits_length_le nowMs.toNat_lt
    have bytes := utf8ByteSize_le s!"op-{nowMs}"
    rw [text, List.length_append, List.length_cons, List.length_cons, List.length_cons,
      List.length_nil] at bytes
    omega
  have plain : hasControl s!"op-{nowMs}" = false := by
    rw [hasControl, text, List.any_eq_false]
    intro c member
    rw [Bool.not_eq_true]
    rcases List.mem_append.1 member with letter | digit
    · simp only [List.mem_cons, List.not_mem_nil, or_false] at letter
      rcases letter with rfl | rfl | rfl <;> decide
    · exact not_isControl_of_isDigit (Nat.isDigit_of_mem_toDigits (by omega) (by omega) digit)
  have full : (s!"op-{nowMs}").isEmpty = false := by
    rw [← Bool.not_eq_true, String.isEmpty_iff]
    intro empty
    rw [empty] at text
    cases text
  rw [validateIdentity, rejectIf_eq_ok, full, plain]
  simpa using short

section Grow

variable {policy : InboxRepairRetryPolicy} {w : Outbox}

theorem row?_append (new : OutboxRow) (opId : String) :
    { w with rows := w.rows ++ [new] }.row? opId =
      (w.row? opId).or (if new.opId = opId then some new else none) := by
  simp only [row?, List.find?_append, List.find?_singleton, beq_iff_eq]

/-- A pending row under a new identity. -/
theorem Steady.add (steady : w.Steady policy) (positive : 0 < policy.maxAttempts)
    {new : OutboxRow} (unknown : w.row? new.opId = none) (pending : new.status = .pending)
    (first : new.attemptCount = 0) (valid : validateIdentity "op" new.opId = .ok ()) :
    { w with rows := w.rows ++ [new] }.Steady policy := by
  have old : ∀ {opId row}, w.row? opId = some row →
      { w with rows := w.rows ++ [new] }.row? opId = some row := by
    intro opId row found
    rw [row?_append, found, Option.some_or]
  have split : ∀ {opId row}, { w with rows := w.rows ++ [new] }.row? opId = some row →
      w.row? opId = some row ∨ (opId = new.opId ∧ row = new) := by
    intro opId row found
    rw [row?_append] at found
    cases known : w.row? opId with
    | some other =>
      rw [known, Option.some_or] at found
      exact .inl found
    | none =>
      rw [known, Option.none_or] at found
      split at found
      · rename_i same
        exact .inr ⟨same.symm, (Option.some.inj found).symm⟩
      · cases found
  have unowed : ¬ w.Owed new.opId := by
    rintro ⟨index, tick, there, owes⟩
    obtain ⟨copy, held, key⟩ := owes.held
    obtain ⟨row, found, _⟩ := steady.current index tick there copy held
    rw [key, unknown] at found
    cases found
  have unexecuted := steady.unknown new.opId unknown
  refine ⟨?_, ?_, steady.apart, ?_, steady.due, ?_, ?_, ?_, ?_, ?_⟩
  · rw [List.map_append, List.nodup_append']
    refine ⟨steady.distinct, by simp, ?_⟩
    rw [List.map_singleton, List.disjoint_singleton]
    intro member
    obtain ⟨row, listed, same⟩ := List.mem_map.1 member
    rw [← same, row?_of_mem steady.distinct listed] at unknown
    cases unknown
  · intro opId member
    rw [List.map_append, List.map_singleton] at member
    rcases List.mem_append.1 member with earlier | last
    · exact steady.named opId earlier
    · rw [List.mem_singleton.1 last]
      exact valid
  · rintro index tick there copy held
    obtain ⟨row, found, rest⟩ := steady.current index tick there copy held
    exact ⟨row, old found, rest⟩
  · intro opId missing
    cases known : w.row? opId with
    | none => exact steady.unknown opId known
    | some row =>
      rw [old known] at missing
      cases missing
  · intro opId row found waits
    rcases split found with found | ⟨rfl, rfl⟩
    · exact steady.within opId row found waits
    · rw [first]
      exact UInt8.lt_iff_toNat_lt.1 positive
  · intro opId row found waits free
    rcases split found with found | ⟨rfl, rfl⟩
    · exact steady.idle opId row found waits free
    · rw [first]
      exact unexecuted
  · intro opId row found owed
    rcases split found with found | ⟨rfl, rfl⟩
    · exact steady.owed opId row found owed
    · exact absurd owed unowed
  · intro opId row found settled
    rcases split found with found | ⟨rfl, rfl⟩
    · exact steady.spent opId row found settled
    · exact absurd pending settled

/-- A tick starts with nothing in hand. -/
theorem Steady.start (steady : w.Steady policy) {new : Tick} (empty : new.held = [])
    (idle : ∀ opId, ¬ new.Owes opId) : { w with ticks := w.ticks ++ [new] }.Steady policy := by
  have split : ∀ {index : Nat} {tick : Tick}, (w.ticks ++ [new])[index]? = some tick →
      w.ticks[index]? = some tick ∨ tick = new := by
    intro index tick found
    rcases Nat.lt_or_ge index w.ticks.length with earlier | last
    · rw [List.getElem?_append_left earlier] at found
      exact .inl found
    · rw [List.getElem?_append_right last, List.getElem?_singleton] at found
      split at found
      · exact .inr (Option.some.inj found).symm
      · cases found
  have owed : ∀ {opId}, { w with ticks := w.ticks ++ [new] }.Owed opId ↔ w.Owed opId := by
    intro opId
    constructor
    · rintro ⟨index, tick, found, owes⟩
      rcases split found with found | rfl
      · exact ⟨index, tick, found, owes⟩
      · exact absurd owes (idle opId)
    · rintro ⟨index, tick, found, owes⟩
      exact ⟨index, tick, List.getElem?_append_left
        (List.getElem?_eq_some_iff.1 found).1 ▸ found, owes⟩
  refine ⟨steady.distinct, steady.named, ⟨?_, ?_⟩, ?_, ?_, steady.unknown, steady.within, ?_, ?_,
    steady.spent⟩
  · intro index tick found
    rcases split found with found | rfl
    · exact steady.apart.owned index tick found
    · simp [empty]
  · intro first second tick other different atFirst atSecond a among b between
    rcases split atFirst with atFirst | rfl
    · rcases split atSecond with atSecond | rfl
      · exact steady.apart.disjoint first second tick other different atFirst atSecond a among b
          between
      · rw [empty] at between
        cases between
    · rw [empty] at among
      cases among
  · intro index tick found copy held
    rcases split found with found | rfl
    · exact steady.current index tick found copy held
    · rw [empty] at held
      cases held
  · intro index tick found row write rows phase
    rcases split found with found | rfl
    · exact steady.due index tick found row write rows phase
    · exact absurd ⟨row, write, rows, phase, rfl⟩ (idle row.opId)
  · intro opId row found waits free
    exact steady.idle opId row found waits fun isOwed => free (owed.2 isOwed)
  · intro opId row found isOwed
    exact steady.owed opId row found (owed.1 isOwed)

end Grow

/-! ## Runs -/

/-- Between two moments rows stay, attempts grow, and what is settled stays so and
is not executed. -/
def Grows (w w' : Outbox) : Prop :=
  ∀ (opId : String) (row : OutboxRow), w.row? opId = some row →
    ∃ row', w'.row? opId = some row' ∧ row.attemptCount ≤ row'.attemptCount ∧
      (row.status ≠ .pending → row'.status ≠ .pending ∧ w'.executions opId = w.executions opId)

theorem Grows.refl (w : Outbox) : w.Grows w :=
  fun _ row found => ⟨row, found, UInt8.le_refl _, fun settled => ⟨settled, rfl⟩⟩

theorem Grows.trans {w₁ w₂ w₃ : Outbox} (first : w₁.Grows w₂) (second : w₂.Grows w₃) :
    w₁.Grows w₃ := by
  intro opId row found
  obtain ⟨middle, there, attempts, stays⟩ := first opId row found
  obtain ⟨final, last, more, remains⟩ := second opId middle there
  refine ⟨final, last, UInt8.le_trans attempts more, fun settled => ?_⟩
  obtain ⟨settled', executions⟩ := stays settled
  obtain ⟨settled'', executions'⟩ := remains settled'
  exact ⟨settled'', executions'.trans executions⟩

/-- A step that leaves table and executions alone. -/
theorem Grows.of_same {w w' : Outbox} (table : w'.rows = w.rows)
    (executed : w'.executed = w.executed) : w.Grows w' := by
  intro opId row found
  refine ⟨row, ?_, UInt8.le_refl _, fun settled => ⟨settled, ?_⟩⟩
  · rw [row?, table]
    exact found
  · rw [executions, executed, executions]

section Run

variable {policy : InboxRepairRetryPolicy} {w : Outbox}

variable {index : Nat} {tick : Tick}

/-- Only pending rows are executed. -/
theorem Steady.execute_grows (steady : w.Steady policy) (here : w.ticks[index]? = some tick)
    {row : InboxRepairOpRow} (held : row ∈ tick.held) {w' : Outbox} (table : w'.rows = w.rows)
    (logged : w'.executed = w.executed ++ [row.opId]) :
    w.Grows w' := by
  intro opId other found
  have lookup : w'.row? opId = some other := by
    rw [row?, table]
    exact found
  refine ⟨other, lookup, UInt8.le_refl _, fun settled => ⟨settled, ?_⟩⟩
  have different : row.opId ≠ opId := by
    rintro rfl
    obtain ⟨stored, known, pending, _⟩ := steady.current index tick here row held
    rw [known, Option.some.injEq] at found
    exact settled (found ▸ pending)
  simp [executions, logged, List.count_append, different]

/-- Only pending rows are written. -/
theorem Steady.settle_grows (steady : w.Steady policy) (here : w.ticks[index]? = some tick)
    {copy : InboxRepairOpRow} (held : copy ∈ tick.held) {w' : Outbox}
    (written : Written policy w w' copy) (executed : w'.executed = w.executed) :
    w.Grows w' := by
  intro opId row found
  have counted : w'.executions opId = w.executions opId := by
    rw [executions, executed, executions]
  by_cases same : opId = copy.opId
  · subst same
    obtain ⟨stored, known, pending, attempts⟩ := steady.current index tick here copy held
    rw [found, Option.some.injEq] at known
    subst known
    obtain ⟨row', there, result⟩ := written.mine row found
    refine ⟨row', there, ?_, fun settled => absurd pending settled⟩
    rcases result with ⟨_, next, _⟩ | ⟨_, equal⟩
    · rw [UInt8.le_iff_toNat_le, next, attempts]
      omega
    · rw [equal]
      exact UInt8.le_refl _
  · exact ⟨row, by rw [written.others opId same, found], UInt8.le_refl _,
      fun settled => ⟨settled, counted⟩⟩

/-- **One step** of a tick. -/
theorem Steady.advance (steady : w.Steady policy) (here : w.ticks[index]? = some tick)
    (nowMs : UInt64) (answer : Except HarnessError InboxRepairExecuteOutcome)
    (exclusive : w.Exclusive (.advance index nowMs answer)) :
    (w.advanceTick policy index tick nowMs answer).Steady policy ∧
      w.Grows (w.advanceTick policy index tick nowMs answer) := by
  -- a tick that neither executes nor writes, and keeps some of its rows
  have rests : ∀ {new : Tick}, new.held = [] → (∀ opId, ¬ tick.Owes opId) →
      (∀ opId, ¬ new.Owes opId) →
      { w with ticks := w.ticks.set index new }.Steady policy ∧
        w.Grows { w with ticks := w.ticks.set index new } := by
    intro new empty before after
    refine ⟨steady.move here (steady.apart.keep here ?_) ?_ before after, .of_same rfl rfl⟩
    · rw [empty]
      exact List.nil_sublist _
    · rw [empty]
      simp
  unfold advanceTick
  split
  · rename_i maxOps phase
    have before : ∀ opId, ¬ tick.Owes opId := by
      rintro opId ⟨_, _, _, other, _⟩
      rw [phase] at other
      cases other
    split
    · exact rests (by rfl) before (by simp [Tick.Owes])
    · rename_i rows fetched
      have copied := fetched_of_fetch steady.distinct fetched
      refine ⟨steady.move here (steady.apart.set here ?_ ?_) ?_ before (by simp [Tick.Owes]),
        .of_same rfl rfl⟩
      · exact copied.distinct
      · intro other there _ found row among copy held
        have isRead : row ∈ w.reads index nowMs := by
          obtain ⟨startedMs, outcome, _⟩ := tick
          subst phase
          rw [reads, here]
          dsimp only
          rw [fetched]
          exact among
        exact exclusive row isRead there (List.mem_of_getElem? found) copy held
      · exact copied.pending
  · rename_i phase
    refine rests (by rfl) ?_ (by simp [Tick.Owes])
    rintro opId ⟨_, _, _, other, _⟩
    rw [phase] at other
    cases other
  · rename_i row rows phase
    have held : row ∈ tick.held := by simp [Tick.held, phase]
    obtain ⟨stored, found, pending, attempts⟩ := steady.current index tick here row held
    have within := steady.within row.opId stored found pending
    rw [attempts] at within
    exact ⟨steady.execute here phase (repairWrite_due policy nowMs row within answer) rfl rfl rfl
      rfl, steady.execute_grows here held rfl rfl⟩
  · rename_i row write rows phase
    have held : row ∈ tick.held := by simp [Tick.held, phase]
    have due := steady.due index tick here row write rows phase
    obtain ⟨stored, found, _, _⟩ := steady.current index tick here row held
    have valid : validateIdentity "op" row.opId = .ok () :=
      steady.named row.opId (List.mem_map.2 ⟨stored, List.mem_of_find?_eq_some found,
        row?_opId found⟩)
    split
    · rename_i error failed
      -- the identity is valid, so the write does not fail
      unfold RepairWrite.perform updateRepairOpStatus rescheduleRepairOp at failed
      rw [valid] at failed
      split at failed <;> cases failed
    · rename_i written performed
      have writes := written_of_perform due performed
      have moved : Written policy w ⟨written, w.ticks.set index
          ⟨tick.startedMs, write.count tick.outcome, .working rows⟩, w.executed⟩ row :=
        ⟨writes.ids, writes.others, writes.mine⟩
      exact ⟨steady.settle here phase rfl rfl moved rfl, steady.settle_grows here held moved rfl⟩
  · exact ⟨steady, .refl w⟩

/-- **One action** of an orderly run. -/
theorem Steady.act (steady : w.Steady policy) (positive : 0 < policy.maxAttempts)
    {action : RepairAction} (exclusive : w.Exclusive action) :
    (w.act policy action).Steady policy ∧ w.Grows (w.act policy action) := by
  cases action with
  | enqueue nowMs waitId kind payload =>
    rw [Outbox.act]
    split
    · rename_i rows opId enqueued
      rw [enqueueRepairOp] at enqueued
      replace enqueued := rest_ok enqueued
      obtain ⟨fresh, ended⟩ := seq_eq_ok.1 enqueued
      cases ended
      rw [rejectIf_eq_ok, List.any_eq_false] at fresh
      refine ⟨steady.add positive (List.find?_eq_none.2 fresh) rfl rfl
        (validateIdentity_opId nowMs), ?_⟩
      intro other row found
      refine ⟨row, ?_, UInt8.le_refl _, fun settled => ⟨settled, rfl⟩⟩
      rw [row?_append, found, Option.some_or]
    · exact ⟨steady, .refl w⟩
  | start nowMs maxOps =>
    exact ⟨steady.start rfl (by simp [Tick.Owes]), .of_same rfl rfl⟩
  | advance index nowMs answer =>
    rw [Outbox.act]
    split
    · rename_i tick here
      exact steady.advance here nowMs answer exclusive
    · exact ⟨steady, .refl w⟩
  | abandon index =>
    rw [Outbox.act]
    split
    · rename_i startedMs outcome rows here
      refine ⟨steady.move here (steady.apart.keep here (List.nil_sublist _)) ?_ ?_ ?_,
        .of_same rfl rfl⟩
      · intro copy held
        cases held
      · simp [Tick.Owes]
      · simp [Tick.Owes]
    · exact ⟨steady, .refl w⟩

/-- **A whole run.** -/
theorem Steady.run (positive : 0 < policy.maxAttempts) :
    ∀ (actions : List RepairAction) {w : Outbox}, w.Steady policy → Orderly policy w actions →
      (w.run policy actions).Steady policy ∧ w.Grows (w.run policy actions) := by
  intro actions
  induction actions with
  | nil =>
    intro w steady _
    exact ⟨steady, .refl w⟩
  | cons action rest ih =>
    rintro w steady ⟨exclusive, orderly⟩
    obtain ⟨steady', grows⟩ := steady.act positive exclusive
    obtain ⟨steady'', grows'⟩ := ih steady' orderly
    exact ⟨steady'', grows.trans grows'⟩

theorem Steady.budget (steady : w.Steady policy) (opId : String) :
    w.executions opId ≤ policy.maxAttempts.toNat := by
  cases found : w.row? opId with
  | none =>
    rw [steady.unknown opId found]
    exact Nat.zero_le _
  | some row =>
    by_cases pending : row.status = .pending
    · have within := steady.within opId row found pending
      by_cases owed : w.Owed opId
      · have := steady.owed opId row found owed
        omega
      · have := steady.idle opId row found pending owed
        omega
    · exact steady.spent opId row found pending

end Run

theorem orderly_append {policy : InboxRepairRetryPolicy} :
    ∀ {actions more : List RepairAction} {w : Outbox}, Orderly policy w (actions ++ more) →
      Orderly policy w actions ∧ Orderly policy (w.run policy actions) more := by
  intro actions
  induction actions with
  | nil => exact fun orderly => ⟨trivial, orderly⟩
  | cons action rest ih =>
    rintro more w ⟨exclusive, orderly⟩
    obtain ⟨first, second⟩ := ih orderly
    exact ⟨⟨exclusive, first⟩, second⟩

theorem empty_steady (policy : InboxRepairRetryPolicy) : empty.Steady policy := by
  refine ⟨by simp [empty], by simp [empty], ⟨?_, ?_⟩, ?_, ?_, ?_, ?_, ?_, ?_, ?_⟩
  all_goals simp [empty, row?, executions]

/-- **Lifecycle of the outbox.**  Workers that never read a row another one has in
hand: what is settled stays settled and is not executed again, attempts never
decrease, and no row is executed more often than the policy allows. -/
theorem repair_lifecycle (policy : InboxRepairRetryPolicy) (positive : 0 < policy.maxAttempts)
    (actions more : List RepairAction) (orderly : Orderly policy empty (actions ++ more)) :
    Lifecycle policy (run policy empty actions) (run policy (run policy empty actions) more) := by
  obtain ⟨first, second⟩ := orderly_append orderly
  obtain ⟨steady, _⟩ := Steady.run positive actions (empty_steady policy) first
  obtain ⟨steady', grows⟩ := Steady.run positive more steady second
  refine ⟨?_, ?_, steady'.budget⟩
  · intro opId row found settled
    obtain ⟨row', there, _, stays⟩ := grows opId row found
    refine ⟨row', there, stays ?_⟩
    intro pending
    rw [pending] at settled
    cases settled
  · intro opId row found
    obtain ⟨row', there, attempts, _⟩ := grows opId row found
    exact ⟨row', there, attempts⟩

/-- One worker retries a row, a second one completes it. -/
theorem repair_lifecycle_retry :
    Lifecycle {} (run {} empty [.enqueue 5 "wait-1" .submit [], .start 10 16,
        .advance 0 11 (.ok .retryable), .advance 0 12 (.ok .retryable),
        .advance 0 13 (.ok .retryable)])
      (run {} (run {} empty [.enqueue 5 "wait-1" .submit [], .start 10 16,
        .advance 0 11 (.ok .retryable), .advance 0 12 (.ok .retryable),
        .advance 0 13 (.ok .retryable)]) [.start 300 16, .advance 1 301 (.ok .succeeded),
        .advance 1 302 (.ok .succeeded), .advance 1 303 (.ok .succeeded)]) :=
  repair_lifecycle {} (by decide) _ _ (by decide +kernel)

end Outbox

end YHarness.State

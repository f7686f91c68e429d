/-
# YHarness.State.RepairQueue -- when a sequence of repair operations is queued whole

`enqueue_repair_op` spells the identity of a new row from the millisecond it runs in, and
the table takes an identity once.  Two operations of one millisecond are therefore one row
and one refusal (`same_millisecond_refused`).

`queues_iff_distinct` is what the outbox does promise: a sequence of calls is queued whole
exactly when no two of them read the same millisecond and no row already has one of their
identities.
-/
import YHarness.State.InboxRepair
import Mathlib.Data.List.Induction

namespace YHarness.State.Outbox

open YHarness.Lib YHarness.Kernel

set_option autoImplicit false

/-- A call of `enqueue_repair_op` with a valid wait identity, and the clock it reads. -/
structure RepairCall where
  nowMs : UInt64
  waitId : String
  kind : InboxRepairOpKind
  payload : List UInt8
  valid : validateIdentity "wait" waitId = .ok ()

/-- The outbox after some calls, and the identities they returned. -/
structure Queue where
  rows : List OutboxRow
  returned : List String

namespace Queue

def enqueue (queue : Queue) (call : RepairCall) : Queue :=
  match enqueueRepairOp queue.rows call.nowMs call.waitId call.kind call.payload with
  | .ok (rows, opId) => ⟨rows, queue.returned ++ [opId]⟩
  | .error _ => queue

def enqueueAll (queue : Queue) (calls : List RepairCall) : Queue :=
  calls.foldl enqueue queue

/-- The call succeeds, returns a new identity and adds exactly one row, which is pending
and carries what the caller asked for. -/
def Takes (queue : Queue) (call : RepairCall) : Prop :=
  ∃ opId row, enqueueRepairOp queue.rows call.nowMs call.waitId call.kind call.payload =
      .ok (queue.rows ++ [row], opId) ∧
    opId ∉ queue.returned ∧ row.opId = opId ∧ row.status = .pending ∧
    row.waitId = call.waitId ∧ row.opKind = call.kind ∧ row.payloadJson = call.payload

end Queue

/-- Every call of the sequence is taken, on the outbox that the calls before it left. -/
def Queues (rows : List OutboxRow) (calls : List RepairCall) : Prop :=
  ∀ before call after, calls = before ++ call :: after →
    (Queue.enqueueAll ⟨rows, []⟩ before).Takes call

/-- Two settlements of different waits in one millisecond. -/
def sameMillisecond : List RepairCall :=
  [⟨1723600000000, "wait-1", .settle, [1], by decide +kernel⟩,
    ⟨1723600000000, "wait-2", .settle, [2], by decide +kernel⟩]

theorem same_millisecond_refused :
    ¬ ∀ (rows : List OutboxRow) (calls : List RepairCall), Queues rows calls := by
  intro promised
  have refused : (enqueueRepairOp (Queue.enqueueAll ⟨[], []⟩ (sameMillisecond.take 1)).rows
      1723600000000 "wait-2" .settle [2]).toOption = none := by decide +kernel
  obtain ⟨opId, row, taken, _⟩ := promised [] sameMillisecond (sameMillisecond.take 1)
    ⟨1723600000000, "wait-2", .settle, [2], by decide +kernel⟩ [] rfl
  rw [taken] at refused
  cases refused

/-! ## Identities -/

/-- The identity of a row queued at a millisecond. -/
def opIdAt (nowMs : UInt64) : String :=
  s!"op-{nowMs}"

theorem opIdAt_injective : Function.Injective opIdAt := by
  intro a b same
  have digits : Nat.toDigits 10 a.toNat = Nat.toDigits 10 b.toNat := by
    have text := congrArg String.toList same
    simpa [opIdAt, toString] using text
  have number := congrArg (fun cs => Nat.ofDigitChars 10 cs 0) digits
  simp only [Nat.ofDigitChars_ten_toDigits] at number
  exact UInt64.toNat_inj.1 number

theorem enqueueRepairOp_eq_ok {rows rows' : List OutboxRow} {call : RepairCall} {opId : String} :
    enqueueRepairOp rows call.nowMs call.waitId call.kind call.payload = .ok (rows', opId) ↔
      opIdAt call.nowMs ∉ rows.map (·.opId) ∧ opId = opIdAt call.nowMs ∧
      rows' = rows ++ [⟨opId, call.waitId, call.kind, call.payload, .pending, 0, none,
        call.nowMs.toInt64, none, call.nowMs.toInt64⟩] := by
  have absent : (rows.any fun row => row.opId == opIdAt call.nowMs) = false ↔
      opIdAt call.nowMs ∉ rows.map (·.opId) := by
    simp [List.any_eq_false]
  rw [enqueueRepairOp, call.valid, ok_bind, seq_eq_ok, rejectIf_eq_ok,
    show (s!"op-{call.nowMs}") = opIdAt call.nowMs from rfl, absent, Except.ok.injEq, Prod.mk.injEq]
  constructor
  · rintro ⟨fresh, rfl, rfl⟩
    exact ⟨fresh, rfl, rfl⟩
  · rintro ⟨fresh, rfl, rfl⟩
    exact ⟨fresh, rfl, rfl⟩

/-! ## A sequence of calls -/

namespace Queue

variable {queue : Queue} {call : RepairCall}

/-- The identities in the table and the returned ones. -/
def Recorded (queue : Queue) : Prop :=
  ∀ opId ∈ queue.returned, opId ∈ queue.rows.map (·.opId)

theorem enqueue_new (unknown : opIdAt call.nowMs ∉ queue.rows.map (·.opId)) :
    queue.enqueue call = ⟨queue.rows ++ [⟨opIdAt call.nowMs, call.waitId, call.kind,
      call.payload, .pending, 0, none, call.nowMs.toInt64, none, call.nowMs.toInt64⟩],
      queue.returned ++ [opIdAt call.nowMs]⟩ := by
  rw [enqueue, enqueueRepairOp_eq_ok.2 ⟨unknown, rfl, rfl⟩]

theorem enqueue_known (known : opIdAt call.nowMs ∈ queue.rows.map (·.opId)) :
    queue.enqueue call = queue := by
  rw [enqueue]
  split
  · rename_i taken
    exact absurd known (enqueueRepairOp_eq_ok.1 taken).1
  · rfl

/-- Taken or refused, the identity of the call is in the table afterwards. -/
theorem mem_enqueue (opId : String) :
    opId ∈ (queue.enqueue call).rows.map (·.opId) ↔
      opId ∈ queue.rows.map (·.opId) ∨ opId = opIdAt call.nowMs := by
  by_cases known : opIdAt call.nowMs ∈ queue.rows.map (·.opId)
  · rw [enqueue_known known]
    exact ⟨.inl, fun either => either.elim id fun here => here ▸ known⟩
  · rw [enqueue_new known, List.map_append, List.mem_append, List.map_singleton,
      List.mem_singleton]

theorem Recorded.enqueue (recorded : queue.Recorded) : (queue.enqueue call).Recorded := by
  by_cases known : opIdAt call.nowMs ∈ queue.rows.map (·.opId)
  · rwa [enqueue_known known]
  · intro opId returned
    rw [mem_enqueue]
    rw [enqueue_new known, List.mem_append, List.mem_singleton] at returned
    exact returned.imp_left (recorded opId)

/-- **One call.**  A call is taken exactly when its identity is not in the table. -/
theorem takes_iff (recorded : queue.Recorded) :
    queue.Takes call ↔ opIdAt call.nowMs ∉ queue.rows.map (·.opId) := by
  constructor
  · rintro ⟨opId, row, taken, _⟩
    exact (enqueueRepairOp_eq_ok.1 taken).1
  · intro absent
    exact ⟨_, _, enqueueRepairOp_eq_ok.2 ⟨absent, rfl, rfl⟩,
      fun returned => absent (recorded _ returned), rfl, rfl, rfl, rfl, rfl⟩

theorem Recorded.enqueueAll (recorded : queue.Recorded) (calls : List RepairCall) :
    (queue.enqueueAll calls).Recorded := by
  induction calls generalizing queue with
  | nil => exact recorded
  | cons call rest ih => exact ih recorded.enqueue

/-- **A run of calls.**  The table afterwards has the identities it had and those of the
milliseconds of the calls, whichever of them were refused. -/
theorem mem_enqueueAll (calls : List RepairCall) (opId : String) :
    opId ∈ (queue.enqueueAll calls).rows.map (·.opId) ↔
      opId ∈ queue.rows.map (·.opId) ∨ ∃ call ∈ calls, opId = opIdAt call.nowMs := by
  induction calls generalizing queue with
  | nil => simp [enqueueAll]
  | cons call rest ih =>
    have later := @ih (queue.enqueue call)
    rw [mem_enqueue, or_assoc] at later
    simpa [enqueueAll] using later

end Queue

/-- A list has no duplicates exactly when no entry is among those before it. -/
theorem nodup_iff_splits {α : Type} {entries : List α} :
    entries.Nodup ↔ ∀ before entry after, entries = before ++ entry :: after → entry ∉ before := by
  constructor
  · rintro distinct before entry after rfl earlier
    exact (List.nodup_append.1 distinct).2.2 entry earlier entry List.mem_cons_self rfl
  · intro fresh
    induction entries using List.reverseRecOn with
    | nil => exact List.nodup_nil
    | append_singleton rest last ih =>
      have distinct : rest.Nodup := ih fun before entry after split =>
        fresh before entry (after ++ [last]) (by simp [split])
      rw [← List.concat_eq_append]
      exact distinct.concat (fresh rest last [] rfl)

/-- **Main theorem.**  A sequence of calls is queued whole exactly when their milliseconds
are pairwise distinct and no row had one of their identities before. -/
theorem queues_iff_distinct (rows : List OutboxRow) (calls : List RepairCall) :
    Queues rows calls ↔ (calls.map (·.nowMs)).Nodup ∧
      ∀ call ∈ calls, ∀ row ∈ rows, row.opId ≠ s!"op-{call.nowMs}" := by
  have taken : ∀ before call, (Queue.enqueueAll ⟨rows, []⟩ before).Takes call ↔
      (∀ row ∈ rows, row.opId ≠ s!"op-{call.nowMs}") ∧
        call.nowMs ∉ before.map (·.nowMs) := fun before call => by
    have recorded : Queue.Recorded ⟨rows, []⟩ := fun _ none => nomatch none
    rw [Queue.takes_iff (recorded.enqueueAll before), Queue.mem_enqueueAll, not_or]
    refine and_congr (by simp [opIdAt]) ?_
    simp only [opIdAt_injective.eq_iff, List.mem_map, eq_comm]
  constructor
  · refine fun queued => ⟨nodup_iff_splits.2 ?_, fun call member => ?_⟩
    · intro before entry after split
      obtain ⟨calls₁, calls₂, rfl, rfl, mapped⟩ := List.map_eq_append_iff.1 split
      obtain ⟨call, rest, rfl, rfl, _⟩ := List.map_eq_cons_iff.1 mapped
      exact ((taken calls₁ call).1 (queued calls₁ call rest rfl)).2
    · obtain ⟨before, after, split⟩ := List.append_of_mem member
      exact ((taken before call).1 (queued before call after split)).1
  · rintro ⟨distinct, absent⟩ before call after rfl
    refine (taken before call).2 ⟨absent call (by simp), ?_⟩
    rw [List.map_append, List.map_cons] at distinct
    exact nodup_iff_splits.1 distinct _ _ _ rfl

end YHarness.State.Outbox

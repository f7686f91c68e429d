/-
# YHarness.Approval.Closure -- cleaning the Inbox up after a durable wait

A closed wait leaves its approvals to `abandon_durable_approval` of `src/runtime/mod.rs`: it
orphans the Turn in the Inbox once, and remembers that under the key `{thread}::{turn}` in
the tombstone table of the SQLite State store (`src/state/mod.rs`).  Its errors are ignored
by `close_durable_wait` and `cancel_wait_exact_as`.  A decision of an approval is remembered
in the same table, under the identity of the approval.  The key of a Turn is checked as one
identity and does not say where the Thread ends, so the cleanup converges exactly when the
key is short and no other Turn has it (`closure_converges_iff`).
-/
import YHarness.Approval.Safety
import YHarness.State.WaitDue

namespace YHarness.Approval

open YHarness.Lib YHarness.Kernel
open YHarness.Runtime (ApprovalRecord)

set_option autoImplicit false

/-! ## The tombstone table -/

structure InboxTombstoneRecord where
  waitId : String
  reason : InboxTombstoneReason
  sourceRevision : UInt64
  tombstonedAtMs : UInt64

abbrev InboxTombstones : Type := String → Option InboxTombstoneRecord

/-- `lookup_inbox_tombstone`. -/
def lookupInboxTombstone (tombstones : InboxTombstones) (waitId : String) :
    Except HarnessError (Option InboxTombstoneRecord) := do
  State.validateIdentity "wait" waitId
  .ok (tombstones waitId)

def toSqlTombstone (label : String) (value : UInt64) : Except HarnessError Unit :=
  rejectIf (decide (2 ^ 63 ≤ value.toNat)) (.state s!"{label} overflows i64")

/-- `record_inbox_tombstone`. -/
def recordInboxTombstone (tombstones : InboxTombstones) (waitId : String)
    (reason : InboxTombstoneReason) (sourceRevision tombstonedAtMs : UInt64) :
    Except HarnessError InboxTombstones := do
  State.validateIdentity "wait" waitId
  toSqlTombstone "tombstone timestamp" tombstonedAtMs
  toSqlTombstone "tombstone source revision" sourceRevision
  .ok (Function.update tombstones waitId
    (some ⟨waitId, reason, sourceRevision, tombstonedAtMs⟩))

/-! ## The cleanup -/

structure CleanupState where
  inbox : ApprovalInbox
  tombstones : InboxTombstones

/-- The closure of a wait of a Turn: what `abandon_durable_approval` is called with, the
clock of the Inbox and that of the tombstone. -/
structure WaitClosure where
  threadId : ThreadId
  turnId : TurnId
  reason : String
  authority : AuthorityContext
  now : ApprovalId → UInt64
  nowMs : UInt64

def orphanKey (threadId : ThreadId) (turnId : TurnId) : String :=
  threadId ++ "::" ++ turnId

/-- `tombstone_exists`. -/
def tombstoneExists (tombstones : InboxTombstones) (key : String) : Except HarnessError Bool := do
  let tombstone ← lookupInboxTombstone tombstones key
  .ok tombstone.isSome

/-- `abandon_durable_approval`, with a handler over the Inbox. -/
def abandonDurableApproval (st : CleanupState) (wait : WaitClosure) :
    Except HarnessError Unit × CleanupState :=
  let key := orphanKey wait.threadId wait.turnId
  match tombstoneExists st.tombstones key with
  | .error error => (.error error, st)
  | .ok true => (.ok (), st)
  | .ok false =>
    match st.inbox.orphanTurnAs wait.threadId wait.turnId wait.reason wait.authority wait.now with
    | (.error error, inbox) => (.error error, { st with inbox })
    | (.ok _, inbox) =>
      match recordInboxTombstone st.tombstones key .cancelled 0 wait.nowMs with
      | .error error => (.error error, { st with inbox })
      | .ok tombstones => (.ok (), ⟨inbox, tombstones⟩)

/-- What a closed wait leaves behind: the result of the cleanup is ignored. -/
def closeWait (st : CleanupState) (wait : WaitClosure) : CleanupState :=
  (abandonDurableApproval st wait).2

/-- What a decided approval leaves behind: `record_tombstone` after `decide_as`.  The look-up
of `reject_if_tombstoned` stands before the decision, and other steps may come between. -/
def settleApproval (st : CleanupState) (approvalId : ApprovalId) (nowMs : UInt64) :
    Except HarnessError Unit × CleanupState :=
  match recordInboxTombstone st.tombstones approvalId .settled 0 nowMs with
  | .error error => (.error error, st)
  | .ok tombstones => (.ok (), { st with tombstones })

/-- The states that calls of the Inbox, closures of waits and decisions lead to. -/
inductive CleanupState.Reachable : CleanupState → Prop
  | start {inbox : ApprovalInbox} (reached : inbox.Reachable) : Reachable ⟨inbox, fun _ => none⟩
  | call {st : CleanupState} (before : Reachable st) (request : ApprovalCall)
      (authority : AuthorityContext) :
      Reachable { st with inbox := (st.inbox.call request authority).2 }
  | close {st : CleanupState} (before : Reachable st) (wait : WaitClosure) :
      Reachable (closeWait st wait)
  | settle {st : CleanupState} (before : Reachable st) (approvalId : ApprovalId)
      (nowMs : UInt64) : Reachable (settleApproval st approvalId nowMs).2

/-! ## A Turn has no more approvals than one transaction orphans -/

namespace ApprovalInbox

variable {inbox next : ApprovalInbox} {authority : AuthorityContext}

/-- An approval is created only where its Turn has room. -/
theorem submitAs_room (sound : inbox.Sound) {request : ApprovalRequest} {now : UInt64}
    {record : ApprovalRecord} (submitted : inbox.submitAs request authority now = .ok (record, next))
    (free : inbox.held request.id = none) {approvalIds : List ApprovalId}
    (distinct : approvalIds.Nodup)
    (chosen : ∀ approvalId ∈ approvalIds, ∃ record, inbox.held approvalId = some record ∧
      ofTurn request.authorization.threadId request.authorization.turnId authority.tenantId record =
        true) :
    approvalIds.length < maxApprovalsPerTurn := by
  replace submitted := rest_ok (rest_ok submitted)
  cases inbox with
  | memory records =>
    dsimp only at submitted
    rw [show records[request.id]? = none from free] at submitted
    obtain ⟨room, _⟩ := seq_eq_ok.1 submitted
    rw [rejectIf_decide, Nat.not_le] at room
    exact (OrdMap.length_le_filter_values distinct chosen).trans_lt room
  | sqlite rows =>
    dsimp only at submitted
    have absent : rows[request.id]? = none := Option.map_eq_none_iff.1 free
    rw [selectRow, absent, Option.filter_none] at submitted
    obtain ⟨room, _⟩ := seq_eq_ok.1 submitted
    rw [rejectIf_decide, Nat.not_le] at room
    refine (OrdMap.length_le_filter_values distinct fun approvalId member => ?_).trans_lt room
    obtain ⟨record, found, same⟩ := chosen approvalId member
    obtain ⟨row, here, rfl⟩ := Option.map_eq_some_iff.1 found
    exact ⟨row, here, ((sound.row_eq here).2.1 ..).trans same⟩

theorem TurnsBounded.orphans (bounded : inbox.TurnsBounded) {tenantId : Option String}
    (orphans : Orphans tenantId inbox.held next.held) : next.TurnsBounded := by
  intro threadId turnId tenant approvalIds distinct chosen
  refine bounded threadId turnId tenant approvalIds distinct fun approvalId member => ?_
  obtain ⟨record, found, same⟩ := chosen approvalId member
  obtain ⟨old, here, kept, _⟩ := orphans.earlier found
  exact ⟨old, here, (kept ..).symm.trans same⟩

theorem TurnsBounded.call (bounded : inbox.TurnsBounded) (sound : inbox.Sound)
    (request : ApprovalCall) (authority : AuthorityContext) :
    (inbox.call request authority).2.TurnsBounded := by
  cases request with
  | get approvalId => exact bounded
  | pending limit => exact bounded
  | orphan threadId turnId reason now =>
    exact bounded.orphans (orphanTurnAs_spec sound threadId turnId reason now).2.1
  | settle approvalId expectedRevision decision now =>
    unfold ApprovalInbox.call
    dsimp only
    cases settled : inbox.settleAs approvalId expectedRevision decision authority now with
    | error error => exact bounded
    | ok result =>
      obtain ⟨_, written, before, found, owner, _, _, _, settles⟩ := settleAs_spec sound settled
      refine @TurnsBounded.orphans _ _ bounded authority.tenantId ?_
      simp only [replyOf]
      rw [written]
      exact Orphans.update found owner settles
  | submit request now =>
    unfold ApprovalInbox.call
    dsimp only
    cases submitted : inbox.submitAs request authority now with
    | error error => exact bounded
    | ok result =>
      obtain ⟨record, next⟩ := result
      obtain ⟨_, asked, owner, ⟨_, rfl⟩ | ⟨free, _, written⟩⟩ := submitAs_spec sound submitted
      · exact bounded
      · simp only [replyOf]
        intro threadId turnId tenant approvalIds distinct chosen
        rw [written] at chosen
        have older : ∀ approvalId ∈ approvalIds.erase request.id, ∃ record,
            inbox.held approvalId = some record ∧
              ofTurn threadId turnId tenant record = true := by
          intro approvalId member
          obtain ⟨apart, member⟩ := (distinct.mem_erase_iff).1 member
          obtain ⟨record, found, same⟩ := chosen approvalId member
          rw [Function.update_of_ne apart] at found
          exact ⟨record, found, same⟩
        by_cases created : request.id ∈ approvalIds
        · obtain ⟨_, found, same⟩ := chosen request.id created
          rw [Function.update_self] at found
          cases found
          simp only [ofTurn, Bool.and_eq_true, beq_iff_eq, asked, owner] at same
          obtain ⟨⟨rfl, rfl⟩, rfl⟩ := same
          have room := submitAs_room sound submitted free (distinct.erase _) older
          rw [List.length_erase_of_mem created] at room
          omega
        · rw [List.erase_of_not_mem created] at older
          exact bounded threadId turnId tenant approvalIds distinct older

theorem Reachable.turnsBounded (reached : inbox.Reachable) : inbox.TurnsBounded := by
  have run : ∀ {first last : ApprovalInbox}, Later first last → first.Sound →
      first.TurnsBounded → last.TurnsBounded := by
    intro first last later sound bounded
    induction later with
    | refl => exact bounded
    | call before request authority ih => exact ih.call (before.sound sound) request authority
  have empty : ∀ {first : ApprovalInbox}, (∀ approvalId, first.held approvalId = none) →
      first.TurnsBounded := by
    intro first absent _ _ _ approvalIds _ chosen
    obtain rfl : approvalIds = [] := by
      refine List.eq_nil_iff_forall_not_mem.2 fun approvalId member => ?_
      obtain ⟨_, found, _⟩ := chosen approvalId member
      rw [absent] at found
      cases found
    exact Nat.zero_le _
  rcases reached with later | later
  · exact run later memory_empty_sound (empty OrdMap.get?_empty)
  · refine run later sqlite_empty_sound (empty fun approvalId => ?_)
    rw [held, OrdMap.get?_empty]
    rfl

/-- Orphaning a Turn without an open approval writes nothing. -/
theorem orphanTurnAs_of_nonePending (sound : inbox.Sound) {threadId : ThreadId} {turnId : TurnId}
    (closed : inbox.NonePending threadId turnId authority.tenantId) (reason : String)
    (now : ApprovalId → UInt64) :
    (inbox.orphanTurnAs threadId turnId reason authority now).2 = inbox := by
  unfold orphanTurnAs
  cases validateOrphan threadId turnId reason authority with
  | error error => rfl
  | ok _ =>
    cases inbox with
    | memory records =>
      dsimp only
      rw [List.filter_eq_nil_iff.2, orphanRecords]
      rintro ⟨approvalId, record⟩ member chosen
      rw [Bool.and_eq_true] at chosen
      exact closed approvalId record (OrdMap.mem_toList.1 member) chosen.1
        (beq_iff_eq.1 chosen.2)
    | sqlite rows =>
      dsimp only
      rw [orphanTransaction, List.filter_eq_nil_iff.2]
      · rfl
      · rintro ⟨approvalId, row⟩ member chosen
        rw [Bool.and_eq_true, beq_iff_eq] at chosen
        obtain ⟨found, columns, opens⟩ := sound.row_eq (OrdMap.mem_toList.1 member)
        exact closed approvalId row.record found ((columns ..).symm.trans chosen.1)
          (opens.1 chosen.2)

end ApprovalInbox

/-! ## What a closure converges to -/

namespace CleanupState

variable {st : CleanupState}

/-- The Inbox after a closure: the Turn is orphaned where its key is free. -/
theorem closeWait_inbox (st : CleanupState) (wait : WaitClosure) :
    (closeWait st wait).inbox =
      if tombstoneExists st.tombstones (orphanKey wait.threadId wait.turnId) = .ok false then
        (st.inbox.orphanTurnAs wait.threadId wait.turnId wait.reason wait.authority wait.now).2
      else st.inbox := by
  unfold closeWait abandonDurableApproval
  dsimp only
  generalize st.inbox.orphanTurnAs wait.threadId wait.turnId wait.reason wait.authority
    wait.now = orphaned
  obtain ⟨result, inbox⟩ := orphaned
  cases tombstoneExists st.tombstones (orphanKey wait.threadId wait.turnId) with
  | error error => rw [if_neg nofun]
  | ok there =>
    cases there with
    | true => rw [if_neg nofun]
    | false =>
      rw [if_pos rfl]
      cases result with
      | error error => rfl
      | ok count => cases recordInboxTombstone .. <;> rfl

theorem tombstoneExists_eq_ok {tombstones : InboxTombstones} {key : String} {there : Bool} :
    tombstoneExists tombstones key = .ok there ↔
      State.validateIdentity "wait" key = .ok () ∧ (tombstones key).isSome = there := by
  unfold tombstoneExists lookupInboxTombstone
  cases State.validateIdentity "wait" key with
  | error error => simp [error_bind]
  | ok _ => simp [ok_bind]

/-- The tombstones after a closure whose call succeeds: the key is taken where it was free and
the clock fits. -/
theorem closeWait_tombstones {wait : WaitClosure} (delivered : ∃ n, (st.inbox.orphanTurnAs
      wait.threadId wait.turnId wait.reason wait.authority wait.now).1 = .ok n) :
    (closeWait st wait).tombstones =
      if tombstoneExists st.tombstones (orphanKey wait.threadId wait.turnId) = .ok false ∧
          wait.nowMs.toNat < 2 ^ 63 then
        Function.update st.tombstones (orphanKey wait.threadId wait.turnId)
          (some ⟨orphanKey wait.threadId wait.turnId, .cancelled, 0, wait.nowMs⟩)
      else st.tombstones := by
  obtain ⟨n, delivered⟩ := delivered
  unfold closeWait abandonDurableApproval
  dsimp only
  cases free : tombstoneExists st.tombstones (orphanKey wait.threadId wait.turnId) with
  | error error => rw [if_neg (by simp)]
  | ok there =>
    cases there with
    | true => rw [if_neg (by simp)]
    | false =>
      generalize st.inbox.orphanTurnAs wait.threadId wait.turnId wait.reason wait.authority
        wait.now = orphaned at delivered
      obtain ⟨result, inbox⟩ := orphaned
      cases delivered
      dsimp only
      rw [recordInboxTombstone, (tombstoneExists_eq_ok.1 free).1]
      by_cases fits : wait.nowMs.toNat < 2 ^ 63
      · rw [if_pos ⟨rfl, fits⟩, toSqlTombstone, decide_eq_false (by omega)]
        rfl
      · rw [if_neg fun both => fits both.2, toSqlTombstone, decide_eq_true (by omega)]
        rfl

theorem settleApproval_inbox (st : CleanupState) (approvalId : ApprovalId) (nowMs : UInt64) :
    (settleApproval st approvalId nowMs).2.inbox = st.inbox := by
  unfold settleApproval
  split <;> rfl

theorem Reachable.inbox (reached : st.Reachable) : st.inbox.Reachable := by
  induction reached with
  | start reached => exact reached
  | call _ request authority ih =>
    rcases ih with later | later
    · exact .inl (.call later request authority)
    · exact .inr (.call later request authority)
  | close _ wait ih =>
    rw [closeWait_inbox]
    split
    · rcases ih with later | later
      · exact .inl (.call later (.orphan ..) wait.authority)
      · exact .inr (.call later (.orphan ..) wait.authority)
    · exact ih
  | settle _ approvalId nowMs ih =>
    rw [settleApproval_inbox]
    exact ih

/-- The key of two identities is an identity as long as it is short. -/
theorem validateIdentity_orphanKey {threadId : ThreadId} {turnId : TurnId}
    (thread : State.validateIdentity "Thread" threadId = .ok ())
    (turn : State.validateIdentity "Turn" turnId = .ok ()) :
    State.validateIdentity "wait" (orphanKey threadId turnId) = .ok () ↔
      threadId.utf8ByteSize + turnId.utf8ByteSize ≤ 254 := by
  have size : (orphanKey threadId turnId).utf8ByteSize =
      threadId.utf8ByteSize + 2 + turnId.utf8ByteSize := by
    rw [orphanKey, String.utf8ByteSize_append, String.utf8ByteSize_append]
    rfl
  have plain : hasControl (orphanKey threadId turnId) =
      (hasControl threadId || hasControl turnId) := by
    simp only [hasControl, orphanKey, String.toList_append, List.any_append]
    rw [show "::".toList.any isControl = false from rfl, Bool.or_false]
  simp only [State.validateIdentity, rejectIf_eq_ok, Bool.or_eq_false_iff,
    decide_eq_false_iff_not] at thread turn ⊢
  have filled : (orphanKey threadId turnId).isEmpty = false := by
    rw [← Bool.not_eq_true, String.isEmpty_iff_utf8ByteSize_eq_zero, size]
    omega
  rw [plain, thread.2, turn.2, size, filled]
  simp only [true_and, Bool.or_false, and_true]
  omega

/-- What a closure is to achieve: the Turn has no open approval left, a repetition leaves
the Inbox as it is, and the cleanup of any other Turn still gets to the Inbox, whether its
approvals are open already or submitted later. -/
structure Converges (st : CleanupState) (wait : WaitClosure) : Prop where
  closed : (closeWait st wait).inbox.NonePending wait.threadId wait.turnId wait.authority.tenantId
  repeated : ∀ again : WaitClosure, again.threadId = wait.threadId → again.turnId = wait.turnId →
    again.authority = wait.authority →
      (closeWait (closeWait st wait) again).inbox = (closeWait st wait).inbox
  others : ∀ (threadId : ThreadId) (turnId : TurnId),
    (threadId, turnId) ≠ (wait.threadId, wait.turnId) →
    State.validateIdentity "Thread" threadId = .ok () →
    State.validateIdentity "Turn" turnId = .ok () →
    tombstoneExists st.tombstones (orphanKey threadId turnId) = .ok false →
      tombstoneExists (closeWait st wait).tombstones (orphanKey threadId turnId) = .ok false

/-- The identities of a Turn whose key is free and short enough to be looked up. -/
def Free (st : CleanupState) (wait : WaitClosure) : Prop :=
  wait.threadId.utf8ByteSize + wait.turnId.utf8ByteSize ≤ 254 ∧
    st.tombstones (orphanKey wait.threadId wait.turnId) = none

/-- **A closure converges** exactly when the Turn had no open approval or its key is free and
short, and no other Turn that State admits has the key that the closure takes. -/
theorem closure_converges_iff (reached : st.Reachable) (wait : WaitClosure)
    (thread : State.validateIdentity "Thread" wait.threadId = .ok ())
    (turn : State.validateIdentity "Turn" wait.turnId = .ok ())
    (delivered : ∃ n, (st.inbox.orphanTurnAs wait.threadId wait.turnId wait.reason wait.authority
      wait.now).1 = .ok n) :
    st.Converges wait ↔
      (st.inbox.NonePending wait.threadId wait.turnId wait.authority.tenantId ∨ st.Free wait) ∧
      (st.Free wait → wait.nowMs.toNat < 2 ^ 63 →
        ∀ (threadId : ThreadId) (turnId : TurnId),
          (threadId, turnId) ≠ (wait.threadId, wait.turnId) →
          State.validateIdentity "Thread" threadId = .ok () →
          State.validateIdentity "Turn" turnId = .ok () →
            orphanKey threadId turnId ≠ orphanKey wait.threadId wait.turnId) := by
  have sound := reached.inbox.sound
  have free : tombstoneExists st.tombstones (orphanKey wait.threadId wait.turnId) = .ok false ↔
      st.Free wait := by
    rw [tombstoneExists_eq_ok, validateIdentity_orphanKey thread turn, Option.isSome_eq_false_iff,
      Option.isNone_iff_eq_none]
    rfl
  have inbox := closeWait_inbox st wait
  have tombstones := closeWait_tombstones delivered
  obtain ⟨n, delivered⟩ := delivered
  obtain ⟨_, _, orphaned⟩ := @ApprovalInbox.orphanTurnAs_spec st.inbox wait.authority sound
    wait.threadId wait.turnId wait.reason wait.now
  have orphaned := orphaned n delivered reached.inbox.turnsBounded
  constructor
  · intro converges
    refine ⟨?_, fun opens fits threadId turnId apart thread' turn' same => ?_⟩
    · -- where the key is not free, the Inbox is the one before
      by_cases opens : st.Free wait
      · exact .inr opens
      · have closed := converges.closed
        rw [inbox, if_neg (mt free.1 opens)] at closed
        exact .inl closed
    · -- a Turn with the key would be passed over
      have still := converges.others threadId turnId apart thread' turn'
      rw [same, tombstones, if_pos ⟨free.2 opens, fits⟩] at still
      have taken := (tombstoneExists_eq_ok.1 (still (free.2 opens))).2
      rw [Function.update_self] at taken
      cases taken
  · rintro ⟨here, others⟩
    have closed : (closeWait st wait).inbox.NonePending wait.threadId wait.turnId
        wait.authority.tenantId := by
      rw [inbox]
      split
      · exact orphaned
      · rename_i taken
        exact here.resolve_right (mt free.2 taken)
    refine ⟨closed, ?_, ?_⟩
    · intro again sameThread sameTurn sameAuthority
      rw [closeWait_inbox (closeWait st wait) again]
      split
      · rw [sameThread, sameTurn, sameAuthority]
        exact ApprovalInbox.orphanTurnAs_of_nonePending
          (CleanupState.Reachable.close reached wait).inbox.sound closed again.reason again.now
      · rfl
    · intro threadId turnId apart thread' turn' reaches
      rw [tombstones]
      split
      · rename_i taken
        obtain ⟨opens, fits⟩ := taken
        obtain ⟨valid, absent⟩ := tombstoneExists_eq_ok.1 reaches
        refine tombstoneExists_eq_ok.2 ⟨valid, ?_⟩
        rw [Function.update_of_ne (others (free.1 opens) fits threadId turnId apart thread' turn'),
          absent]
      · exact reaches

/-! ## One approval, and the closure of its wait -/

section Sample

def turnRequest (threadId : ThreadId) (turnId : TurnId) : ApprovalRequest :=
  ⟨"approval-1", .localProcess,
    ⟨threadId, turnId, "call-1", ⟨"deploy", "deploys an artifact", .obj []⟩, .builtIn, .null⟩,
    "deployment changes external state", .high⟩

/-- The Inbox after one submission, without tombstones. -/
def submitted (threadId : ThreadId) (turnId : TurnId) : CleanupState :=
  ⟨((ApprovalInbox.memory ∅).call (.submit (turnRequest threadId turnId) 1000) .localProcess).2,
    fun _ => none⟩

def closureOf (threadId : ThreadId) (turnId : TurnId) : WaitClosure :=
  ⟨threadId, turnId, "authoritative durable wait was closed before settlement consumption",
    .localProcess, fun _ => 2000, 2000⟩

example : ((submitted "thread-1" "turn-1").inbox.orphanTurnAs "thread-1" "turn-1"
    "the wait was closed" .localProcess fun _ => 2000).1 = .ok 1 := by
  decide +kernel

theorem submitted_reachable (threadId : ThreadId) (turnId : TurnId) :
    (submitted threadId turnId).Reachable :=
  .start (.inl (.call .refl _ _))

/-- Without colons in the identities, their key says where the Thread ends. -/
theorem orphanKey_inj {threadId threadId' : ThreadId} {turnId turnId' : TurnId}
    (thread : ':' ∉ threadId'.toList) (turn : ':' ∉ turnId'.toList)
    (same : orphanKey threadId turnId = orphanKey threadId' turnId') :
    (threadId, turnId) = (threadId', turnId') := by
  have split := congrArg String.toList same
  rw [orphanKey, orphanKey, String.toList_append, String.toList_append, String.toList_append,
    String.toList_append, List.append_assoc, List.append_assoc,
    show "::".toList = [':', ':'] from rfl] at split
  rcases List.append_eq_append_iff.1 split with ⟨rest, own, tail⟩ | ⟨rest, own, tail⟩
  · cases rest with
    | nil =>
      rw [List.append_nil] at own
      rw [String.toList_inj.1 own, String.toList_inj.1 (List.append_cancel_left tail)]
    | cons c rest =>
      obtain ⟨rfl, _⟩ := List.cons.inj tail
      exact absurd (by rw [own]; simp) thread
  · match rest, own, tail with
    | [], own, tail =>
      rw [List.append_nil] at own
      rw [String.toList_inj.1 own, String.toList_inj.1 (List.append_cancel_left tail)]
    | [_], _, tail =>
      have later : turnId'.toList = ':' :: turnId.toList := (List.cons.inj (List.cons.inj tail).2).2
      exact absurd (by rw [later]; simp) turn
    | _ :: _ :: rest, _, tail =>
      have later : turnId'.toList = rest ++ ([':', ':'] ++ turnId.toList) :=
        (List.cons.inj (List.cons.inj tail).2).2
      exact absurd (by rw [later]; simp) turn

/-- A closure with short identities converges. -/
theorem closure_converges_iff_short : (submitted "thread-1" "turn-1").Converges
    (closureOf "thread-1" "turn-1") := by
  refine (closure_converges_iff (submitted_reachable _ _) (closureOf "thread-1" "turn-1")
    (by decide +kernel) (by decide +kernel) ⟨1, by decide +kernel⟩).2
    ⟨.inr ⟨by decide +kernel, rfl⟩, fun _ _ threadId turnId apart _ _ same => ?_⟩
  exact apart (orphanKey_inj (by decide) (by decide) same)

/-- A closure of the Turn `c` of `a::b` takes the key of the Turn `b::c` of `a`, whose own
closure then leaves its approval open. -/
theorem closure_diverges : ∃ (st : CleanupState) (wait : WaitClosure), st.Reachable ∧
    State.validateIdentity "Thread" wait.threadId = .ok () ∧
    State.validateIdentity "Turn" wait.turnId = .ok () ∧
    (∃ n, (st.inbox.orphanTurnAs wait.threadId wait.turnId wait.reason wait.authority wait.now).1 =
      .ok n) ∧ ¬ st.Converges wait ∧
    ¬ (closeWait (closeWait st wait) (closureOf "a" "b::c")).inbox.NonePending "a" "b::c" none := by
  refine ⟨submitted "a" "b::c", closureOf "a::b" "c", submitted_reachable _ _, by decide +kernel,
    by decide +kernel, ⟨0, by decide +kernel⟩, fun converges => ?_, fun closed => ?_⟩
  · have reaches := converges.others "a" "b::c" (by decide) (by decide +kernel)
      (by decide +kernel) (by decide +kernel)
    exact absurd reaches (by decide +kernel)
  · have there : ((closeWait (closeWait (submitted "a" "b::c") (closureOf "a::b" "c"))
          (closureOf "a" "b::c")).inbox.held "approval-1").map
          (fun record => (ofTurn "a" "b::c" none record, record.status)) =
        some (true, .pending) := by
      decide +kernel
    obtain ⟨record, found, same⟩ := Option.map_eq_some_iff.1 there
    rw [Prod.mk.injEq] at same
    exact closed "approval-1" record found same.1 same.2

end Sample

end CleanupState

end YHarness.Approval

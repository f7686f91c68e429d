/-
# YHarness.Approval.OrphanTurn -- whether orphaning a Turn is all or nothing

The transaction orphans every open approval of the Turn or leaves the table.  The loop
over the map writes one record after another and stops at the first that is refused, so
the records before it stay orphaned: `orphanRecords_held` says that it writes exactly
the open approvals before the first one that has no room for the reason.  The memory
inbox is therefore all or nothing exactly when all of them have room, or the first one
has none (`orphaning_all_or_nothing_iff`).
-/
import YHarness.Approval.Closure

namespace YHarness.Approval

open YHarness.Lib YHarness.Kernel
open YHarness.Runtime (ApprovalRecord ApprovalRecordStatus)
open YHarness.State (maxApprovalRecordBytes)

set_option autoImplicit false

/-- A record as an orphaning leaves it. -/
def orphaned (record : ApprovalRecord) (reason : String) (now : UInt64) : ApprovalRecord :=
  { record with
    status := .orphaned reason, revision := record.revision + 1, settledAtMs := some now }

/-- The orphaned form of a record is within the bound of a stored record. -/
def hasRoom (reason : String) (now : ApprovalId → UInt64) (entry : ApprovalId × ApprovalRecord) :
    Bool :=
  decide ((recordJson entry.2).encodedLen + orphanBytes reason (now entry.1) ≤
    maxApprovalRecordBytes)

/-- The open approvals of a Turn, in the order of the map. -/
def openOf (records : OrdMap ApprovalId ApprovalRecord) (threadId : ThreadId) (turnId : TurnId)
    (tenantId : Option String) : List (ApprovalId × ApprovalRecord) :=
  records.toList.filter fun entry => ofTurn threadId turnId tenantId entry.2 && isPending entry.2

/-- The records held once those under `approvalIds` are orphaned. -/
def orphanedAt (reason : String) (now : ApprovalId → UInt64) (approvalIds : List ApprovalId)
    (held : ApprovalId → Option ApprovalRecord) (approvalId : ApprovalId) : Option ApprovalRecord :=
  if approvalId ∈ approvalIds then
    (held approvalId).map fun record => orphaned record reason (now approvalId)
  else held approvalId

theorem orphanedAt_nil (reason : String) (now : ApprovalId → UInt64)
    (held : ApprovalId → Option ApprovalRecord) : orphanedAt reason now [] held = held := by
  funext approvalId
  simp [orphanedAt]

theorem orphanedAt_cons {reason : String} {now : ApprovalId → UInt64} {first : ApprovalId}
    {rest : List ApprovalId} {held : ApprovalId → Option ApprovalRecord} {record : ApprovalRecord}
    (found : held first = some record) (fresh : first ∉ rest) :
    orphanedAt reason now rest
        (Function.update held first (some (orphaned record reason (now first)))) =
      orphanedAt reason now (first :: rest) held := by
  funext approvalId
  by_cases same : approvalId = first
  · subst same
    simp [orphanedAt, fresh, found]
  · simp [orphanedAt, same]

/-- An admitted record is orphaned exactly when it has room. -/
theorem Fresh.orphanRecord_iff {record done : ApprovalRecord} (fresh : Fresh record)
    {reason : String} (valid : validateReason "orphan" reason = .ok ())
    (now : ApprovalId → UInt64) (approvalId : ApprovalId) :
    orphanRecord record reason (now approvalId) = .ok done ↔
      hasRoom reason now (approvalId, record) = true ∧
        done = orphaned record reason (now approvalId) := by
  have next : record.revision + 1 = 2 := by
    rw [fresh.revision]
    rfl
  rw [fresh.orphanRecord_eq_ok valid, orphaned, next, hasRoom, decide_eq_true_iff]

namespace ApprovalInbox

variable {inbox : ApprovalInbox}

variable {tenantId : Option String} {records : OrdMap ApprovalId ApprovalRecord}
  {threadId : ThreadId} {reason : String} {turnId : TurnId}

/-- **The loop over the map** orphans the records before the first that has no room. -/
theorem orphanRecords_held (valid : validateReason "orphan" reason = .ok ())
    (now : ApprovalId → UInt64) (entries : List (ApprovalId × ApprovalRecord))
    (records : OrdMap ApprovalId ApprovalRecord) (changed : Nat)
    (chosen : ∀ entry ∈ entries, (memory records).held entry.1 = some entry.2 ∧ Fresh entry.2)
    (distinct : (entries.map (·.1)).Nodup) :
    (memory (orphanRecords reason now entries records changed).2).held =
        orphanedAt reason now ((entries.takeWhile (hasRoom reason now)).map (·.1))
          (memory records).held ∧
      ((∃ n, (orphanRecords reason now entries records changed).1 = .ok n) ↔
        entries.all (hasRoom reason now) = true) := by
  induction entries generalizing records changed with
  | nil => exact ⟨(orphanedAt_nil ..).symm, by simp [orphanRecords]⟩
  | cons entry rest ih =>
    obtain ⟨approvalId, record⟩ := entry
    obtain ⟨found, fresh⟩ := chosen _ List.mem_cons_self
    rw [List.map_cons, List.nodup_cons] at distinct
    unfold orphanRecords
    cases room : hasRoom reason now (approvalId, record) with
    | false =>
      have refused : ∃ error, orphanRecord record reason (now approvalId) = .error error := by
        cases orphans : orphanRecord record reason (now approvalId) with
        | error error => exact ⟨error, rfl⟩
        | ok done =>
          have fits := ((fresh.orphanRecord_iff valid now approvalId).1 orphans).1
          rw [room] at fits
          cases fits
      obtain ⟨error, refused⟩ := refused
      rw [refused, List.takeWhile_cons_of_neg (by simp [room])]
      exact ⟨(orphanedAt_nil ..).symm, by simp [room]⟩
    | true =>
      have orphans := (fresh.orphanRecord_iff valid now approvalId).2 ⟨room, rfl⟩
      have written : (memory (records.insert approvalId
          (orphaned record reason (now approvalId)))).held =
            Function.update (memory records).held approvalId
              (some (orphaned record reason (now approvalId))) :=
        OrdMap.get?_insert records approvalId _
      have later : ∀ entry ∈ rest, (memory (records.insert approvalId
          (orphaned record reason (now approvalId)))).held entry.1 = some entry.2 ∧
            Fresh entry.2 := by
        intro entry member
        have apart : entry.1 ≠ approvalId := by
          intro same
          exact distinct.1 (List.mem_map.2 ⟨entry, member, same⟩)
        rw [written, Function.update_of_ne apart]
        exact chosen entry (List.mem_cons_of_mem _ member)
      obtain ⟨held, succeeds⟩ := ih _ (changed + 1) later distinct.2
      rw [orphans, List.takeWhile_cons_of_pos room, List.all_cons, room, Bool.true_and,
        List.map_cons]
      refine ⟨?_, succeeds⟩
      dsimp only
      rw [held, written, orphanedAt_cons found]
      intro member
      refine distinct.1 ?_
      exact ((List.takeWhile_sublist _).map _).subset member

/-- **The loop of the transaction** orphans all of the records. -/
theorem orphanRows_held (valid : validateReason "orphan" reason = .ok ())
    (now : ApprovalId → UInt64) (approvalIds : List ApprovalId)
    (rows : OrdMap ApprovalId ApprovalRow) (changed : Nat) (sound : (sqlite rows).Sound)
    (chosen : ∀ approvalId ∈ approvalIds, ∃ record,
      (sqlite rows).held approvalId = some record ∧ Fresh record) (distinct : approvalIds.Nodup)
    {result : Nat × OrdMap ApprovalId ApprovalRow}
    (succeeds : orphanRows reason tenantId now approvalIds rows changed = .ok result) :
    (sqlite result.2).held = orphanedAt reason now approvalIds (sqlite rows).held := by
  induction approvalIds generalizing rows changed with
  | nil =>
    cases succeeds
    exact (orphanedAt_nil ..).symm
  | cons approvalId rest ih =>
    obtain ⟨row, found, succeeds⟩ := bind_eq_ok.1 succeeds
    obtain ⟨record, read, succeeds⟩ := bind_eq_ok.1 succeeds
    obtain rfl := read_eq read
    obtain ⟨done, orphan, succeeds⟩ := bind_eq_ok.1 succeeds
    replace succeeds := rest_ok succeeds
    obtain ⟨revision, revised, succeeds⟩ := bind_eq_ok.1 succeeds
    obtain ⟨here, owner, columns⟩ := selectRow_eq_some sound (orError_eq_ok.1 found)
    obtain ⟨record, held, fresh⟩ := chosen approvalId List.mem_cons_self
    rw [here] at held
    cases held
    have stored := sound.stored _ _ here
    obtain ⟨status, settles⟩ := orphanRecord_settles fresh.status orphan
    obtain ⟨_, rfl⟩ := (fresh.orphanRecord_iff valid now approvalId).1 orphan
    have sameId : (orphaned row.record reason (now approvalId)).request.id = approvalId :=
      stored.id
    have pending : row.status = "pending" := by
      rw [columns]
      show statusName row.record.status = "pending"
      rw [fresh.status]
      rfl
    rw [sameId, orError_eq_ok.1 found, Option.filter_some, if_pos (beq_iff_eq.2 pending)] at succeeds
    dsimp only at succeeds
    rw [ApprovalRow.rewritten columns settles (by rw [status]; rfl)
      (i64TryFrom_eq_ok.1 revised).2] at succeeds
    obtain ⟨sound', written⟩ := sound.sqlite_insert
      (settles.stored stored (validateRecord_of_orphanRecord fresh.status orphan))
    rw [List.nodup_cons] at distinct
    rw [ih _ _ sound' ?_ distinct.2 succeeds, written, orphanedAt_cons here distinct.1]
    intro other member
    have apart : other ≠ approvalId := by
      rintro rfl
      exact distinct.1 member
    rw [written, Function.update_of_ne apart]
    exact chosen other (List.mem_cons_of_mem _ member)

/-! ## All or nothing -/

/-- Either every open approval of the tenant's Turn is orphaned and no other record
changes, or the call fails and no record changes. -/
def OrphansAllOrNothing (inbox : ApprovalInbox) (threadId : ThreadId) (turnId : TurnId)
    (reason : String) (authority : AuthorityContext) (now : ApprovalId → UInt64) : Prop :=
  match inbox.orphanTurnAs threadId turnId reason authority now with
  | (.ok _, next) => ∀ approvalId, next.held approvalId =
      (inbox.held approvalId).map fun record =>
        if ofTurn threadId turnId authority.tenantId record && isPending record then
          orphaned record reason (now approvalId)
        else record
  | (.error _, next) => next.held = inbox.held

/-- A reason is refused, or it has room in every open approval of the Turn or not even
in the first. -/
def EvenRoom (records : OrdMap ApprovalId ApprovalRecord) (threadId : ThreadId) (turnId : TurnId)
    (reason : String) (authority : AuthorityContext) (now : ApprovalId → UInt64) : Prop :=
  validateOrphan threadId turnId reason authority ≠ .ok () ∨
    (∀ entry ∈ openOf records threadId turnId authority.tenantId,
      hasRoom reason now entry = true) ∨
    ∃ first ∈ (openOf records threadId turnId authority.tenantId).head?,
      hasRoom reason now first = false

/-- Orphaning the records under the identities of open approvals. -/
theorem orphanedAt_open {held : ApprovalId → Option ApprovalRecord} {approvalIds : List ApprovalId}
    (opens : ∀ approvalId record, held approvalId = some record →
      (approvalId ∈ approvalIds ↔ (ofTurn threadId turnId tenantId record && isPending record) = true))
    (reason : String) (now : ApprovalId → UInt64) (approvalId : ApprovalId) :
    orphanedAt reason now approvalIds held approvalId = (held approvalId).map fun record =>
      if ofTurn threadId turnId tenantId record && isPending record then
        orphaned record reason (now approvalId)
      else record := by
  unfold orphanedAt
  cases found : held approvalId with
  | none => simp
  | some record =>
    have chosen := opens approvalId record found
    by_cases member : approvalId ∈ approvalIds
    · rw [if_pos member, Option.map_some, Option.map_some, if_pos (chosen.1 member)]
    · rw [if_neg member, Option.map_some, if_neg fun other => member (chosen.2 other)]

theorem mem_openOf {entry : ApprovalId × ApprovalRecord} :
    entry ∈ openOf records threadId turnId tenantId ↔
      (memory records).held entry.1 = some entry.2 ∧
        (ofTurn threadId turnId tenantId entry.2 && isPending entry.2) = true := by
  rw [openOf, List.mem_filter, OrdMap.mem_toList]
  rfl

theorem nodup_openOf (records : OrdMap ApprovalId ApprovalRecord) (threadId : ThreadId)
    (turnId : TurnId) (tenantId : Option String) :
    ((openOf records threadId turnId tenantId).map (·.1)).Nodup :=
  (OrdMap.nodup_keys records).sublist (List.filter_sublist.map _)

/-- An identity is among those of the open approvals exactly when its record is open. -/
theorem mem_openOf_keys {records : OrdMap ApprovalId ApprovalRecord} {threadId : ThreadId}
    {turnId : TurnId} {tenantId : Option String} (approvalId : ApprovalId) (record : ApprovalRecord)
    (found : (memory records).held approvalId = some record) :
    approvalId ∈ (openOf records threadId turnId tenantId).map (·.1) ↔
      (ofTurn threadId turnId tenantId record && isPending record) = true := by
  rw [List.mem_map]
  constructor
  · rintro ⟨entry, member, rfl⟩
    obtain ⟨here, chosen⟩ := mem_openOf.1 member
    rw [found] at here
    cases here
    exact chosen
  · intro chosen
    exact ⟨(approvalId, record), mem_openOf.2 ⟨found, chosen⟩, rfl⟩

theorem Sound.fresh (sound : inbox.Sound) {approvalId : ApprovalId} {record : ApprovalRecord}
    (found : inbox.held approvalId = some record) (pending : isPending record = true) :
    Fresh record := by
  rcases (sound.stored approvalId record found).stage with fresh | settled
  · exact fresh
  · exact absurd (beq_iff_eq.1 pending) settled

theorem validReason {authority : AuthorityContext}
    (valid : validateOrphan threadId turnId reason authority = .ok ()) :
    validateReason "orphan" reason = .ok () := by
  replace valid := rest_ok (rest_ok valid)
  exact (seq_eq_ok.1 valid).1

/-- **The memory inbox** is all or nothing exactly when the reason has even room. -/
theorem memory_allOrNothing_iff (sound : (memory records).Sound) (threadId : ThreadId)
    (turnId : TurnId) (reason : String) (authority : AuthorityContext) (now : ApprovalId → UInt64) :
    (memory records).OrphansAllOrNothing threadId turnId reason authority now ↔
      EvenRoom records threadId turnId reason authority now := by
  rw [OrphansAllOrNothing, EvenRoom, orphanTurnAs]
  cases valid : validateOrphan threadId turnId reason authority with
  | error error => simp
  | ok _ =>
    rw [← openOf]
    dsimp only
    have chosen : ∀ entry ∈ openOf records threadId turnId authority.tenantId,
        (memory records).held entry.1 = some entry.2 ∧ Fresh entry.2 := by
      intro entry member
      obtain ⟨found, opens⟩ := mem_openOf.1 member
      rw [Bool.and_eq_true] at opens
      exact ⟨found, sound.fresh found opens.2⟩
    obtain ⟨held, succeeds⟩ := orphanRecords_held (validReason valid) now _ records 0 chosen
      (nodup_openOf records threadId turnId authority.tenantId)
    have opens := @mem_openOf_keys records threadId turnId authority.tenantId
    rw [List.all_eq_true] at succeeds
    revert held succeeds opens chosen
    generalize openOf records threadId turnId authority.tenantId = entries
    intro chosen held succeeds opens
    rw [or_iff_right fun refused => refused rfl]
    cases counted : (orphanRecords reason now entries records 0).1 with
    | ok n =>
      -- every open approval had room, and all of them are orphaned
      have room := succeeds.1 ⟨n, counted⟩
      have all : entries.takeWhile (hasRoom reason now) = entries :=
        List.takeWhile_eq_self_iff.2 room
      rw [all] at held
      refine iff_of_true (fun approvalId => ?_) (.inl room)
      rw [held]
      exact orphanedAt_open opens reason now approvalId
    | error error =>
      have short : ¬ ∀ entry ∈ entries, hasRoom reason now entry = true := by
        intro room
        obtain ⟨n, counted'⟩ := succeeds.2 room
        rw [counted] at counted'
        cases counted'
      simp only [short, false_or]
      rw [held]
      cases entries with
      | nil => exact absurd (by simp) short
      | cons first rest =>
        cases room : hasRoom reason now first with
        | false =>
          rw [List.takeWhile_cons_of_neg (by simp [room])]
          exact iff_of_true (orphanedAt_nil ..) ⟨first, rfl, room⟩
        | true =>
          -- the first open approval is orphaned, and stays so
          have found := (chosen first List.mem_cons_self)
          refine iff_of_false (fun same => ?_) ?_
          · have here := congrFun same first.1
            rw [List.takeWhile_cons_of_pos room, List.map_cons, orphanedAt,
              if_pos List.mem_cons_self, found.1, Option.map_some] at here
            have status := congrArg ApprovalRecord.status (Option.some.inj here)
            rw [found.2.status] at status
            cases status
          · rintro ⟨other, head, none⟩
            cases head
            rw [room] at none
            cases none

/-- **The SQLite inbox** is all or nothing. -/
theorem sqlite_allOrNothing {rows : OrdMap ApprovalId ApprovalRow}
    (sound : (sqlite rows).Sound) (bounded : (sqlite rows).TurnsBounded) (threadId : ThreadId)
    (turnId : TurnId) (reason : String) (authority : AuthorityContext)
    (now : ApprovalId → UInt64) :
    (sqlite rows).OrphansAllOrNothing threadId turnId reason authority now := by
  rw [OrphansAllOrNothing, orphanTurnAs]
  cases valid : validateOrphan threadId turnId reason authority with
  | error error => rfl
  | ok _ =>
    dsimp only
    cases orphans : orphanTransaction rows threadId turnId reason authority.tenantId now with
    | error error => rfl
    | ok result =>
      obtain ⟨_, looped⟩ := seq_eq_ok.1 orphans
      rw [List.take_of_length_le (sound.openRows_length bounded ..)] at looped
      have opens : ∀ approvalId record, (sqlite rows).held approvalId = some record →
          (approvalId ∈ _ ↔
            (ofTurn threadId turnId authority.tenantId record && isPending record) = true) :=
        fun approvalId record found => sound.mem_openRows found
      have chosen : ∀ approvalId ∈ (rows.toList.filter fun entry =>
          ApprovalRow.ofTurn threadId turnId authority.tenantId entry.2 &&
            entry.2.status == "pending").map (·.1),
          ∃ record, (sqlite rows).held approvalId = some record ∧ Fresh record := by
        intro approvalId member
        obtain ⟨entry, listed, rfl⟩ := List.mem_map.1 member
        have found := (sound.row_eq (OrdMap.mem_toList.1 (List.mem_filter.1 listed).1)).1
        have open' := (opens _ _ found).1 member
        rw [Bool.and_eq_true] at open'
        exact ⟨_, found, sound.fresh found open'.2⟩
      intro approvalId
      rw [orphanRows_held (validReason valid) now _ rows 0 sound chosen
        ((OrdMap.nodup_keys rows).sublist (List.filter_sublist.map _)) looped]
      exact orphanedAt_open opens reason now approvalId

/-- **Orphaning a Turn.**  In every reachable inbox the transaction is all or nothing; the
loop over the map is exactly when a valid reason has room in every open approval of the
Turn, or not even in the first. -/
theorem orphaning_all_or_nothing_iff (reached : inbox.Reachable) (threadId : ThreadId)
    (turnId : TurnId) (reason : String) (authority : AuthorityContext)
    (now : ApprovalId → UInt64) :
    (∀ records, inbox = memory records →
      (inbox.OrphansAllOrNothing threadId turnId reason authority now ↔
        EvenRoom records threadId turnId reason authority now)) ∧
    ∀ rows, inbox = sqlite rows →
      inbox.OrphansAllOrNothing threadId turnId reason authority now := by
  have sound := reached.sound
  have bounded := reached.turnsBounded
  constructor
  · rintro records rfl
    exact memory_allOrNothing_iff sound threadId turnId reason authority now
  · rintro rows rfl
    exact sqlite_allOrNothing sound bounded threadId turnId reason authority now

section Sample

/-- A request is admitted under a free identity while its Turn has room. -/
theorem Later.submitted {first : ApprovalInbox} {records : OrdMap ApprovalId ApprovalRecord}
    (later : Later first (memory records)) {request : ApprovalRequest}
    {authority : AuthorityContext} {now : UInt64} {record : ApprovalRecord}
    (admitted : admitRecord request authority now = .ok record)
    (free : records[request.id]? = none) (few : (OrdMap.values records).length < maxApprovalsPerTurn) :
    Later first (memory (records.insert request.id record)) := by
  have next := later.call (.submit request now) authority
  obtain ⟨requested, admitted⟩ := seq_eq_ok.1 admitted
  obtain ⟨submitted, admitted⟩ := seq_eq_ok.1 admitted
  obtain ⟨valid, admitted⟩ := seq_eq_ok.1 admitted
  cases admitted
  have room : ((OrdMap.values records).filter (ofTurn request.authorization.threadId
      request.authorization.turnId authority.tenantId)).length < maxApprovalsPerTurn :=
    lt_of_le_of_lt (List.length_filter_le ..) few
  have counted : rejectIf (decide (maxApprovalsPerTurn ≤ ((OrdMap.values records).filter
      (ofTurn request.authorization.threadId request.authorization.turnId
        authority.tenantId)).length)) turnExceeds = .ok () :=
    rejectIf_eq_ok.2 (decide_eq_false (Nat.not_le.2 room))
  have accepted : (memory records).submitAs request authority now =
      .ok (newRecord request authority.tenantId now,
        memory (records.insert request.id (newRecord request authority.tenantId now))) := by
    refine seq_eq_ok.2 ⟨requested, seq_eq_ok.2 ⟨submitted, ?_⟩⟩
    dsimp only
    rw [free]
    exact seq_eq_ok.2 ⟨counted, seq_eq_ok.2 ⟨valid, rfl⟩⟩
  rw [ApprovalInbox.call, accepted, replyOf] at next
  exact next

def smallRequest : ApprovalRequest := { paddedRequest "" with id := "approval-0" }

def smallRecord : ApprovalRecord := newRecord smallRequest none 1000

example : (orphanRecord smallRecord "the Turn was abandoned" 2000).toOption.isSome = true := by
  decide +kernel

/-- Two approvals of one Turn: the second is close to the admission bound. -/
def crowdedRecords : OrdMap ApprovalId ApprovalRecord :=
  ((∅ : OrdMap ApprovalId ApprovalRecord).insert "approval-0" smallRecord).insert "approval-1"
    largeRecord

theorem crowdedRecords_reachable : (memory crowdedRecords).Reachable := by
  have admitted : admitRecord smallRequest .localProcess 1000 = .ok smallRecord := by decide +kernel
  have first := (@Later.refl (memory ∅)).submitted admitted (OrdMap.get?_empty _)
    (show (OrdMap.values (∅ : OrdMap ApprovalId ApprovalRecord)).length < _ by decide +kernel)
  refine .inl (first.submitted largeRecord_admitted ?_ (by decide +kernel))
  have apart : smallRequest.id ≠ largeRequest.id := by
    show "approval-0" ≠ "approval-1"
    decide
  rw [OrdMap.get?_insert_of_ne _ _ apart]
  exact OrdMap.get?_empty _

/-- A padded request is of one Turn, whatever its padding is. -/
theorem padded_open (padding : String) :
    (ofTurn "thread-1" "turn-1" none (newRecord (paddedRequest padding) none 1000) &&
      isPending (newRecord (paddedRequest padding) none 1000)) = true := rfl

theorem openOf_pair {first second : ApprovalRecord} {chosen : ApprovalRecord → Bool}
    (left : chosen first = true) (right : chosen second = true) :
    ((((∅ : OrdMap ApprovalId ApprovalRecord).insert "approval-0" first).insert "approval-1"
      second).toList.filter fun entry => chosen entry.2) =
        [("approval-0", first), ("approval-1", second)] := by
  have listed : (((∅ : OrdMap ApprovalId ApprovalRecord).insert "approval-0" first).insert
      "approval-1" second).toList = [("approval-0", first), ("approval-1", second)] := rfl
  rw [listed]
  simp [left, right]

theorem openOf_crowdedRecords : openOf crowdedRecords "thread-1" "turn-1" none =
    [("approval-0", smallRecord), ("approval-1", largeRecord)] := by
  have small : (ofTurn "thread-1" "turn-1" none smallRecord && isPending smallRecord) = true := rfl
  have large : (ofTurn "thread-1" "turn-1" none largeRecord && isPending largeRecord) = true := by
    rw [largeRecord, largeRequest]
    exact padded_open _
  exact @openOf_pair _ _ (fun record => ofTurn "thread-1" "turn-1" none record && isPending record)
    small large

variable {reason : String}

theorem validOrphan (valid : validateReason "orphan" reason = .ok ()) :
    validateOrphan "thread-1" "turn-1" reason .localProcess = .ok () :=
  seq_eq_ok.2 ⟨by decide +kernel, seq_eq_ok.2 ⟨by decide +kernel,
    seq_eq_ok.2 ⟨valid, by decide +kernel⟩⟩⟩

theorem hasRoom_eq {now : ApprovalId → UInt64} {approvalId : ApprovalId} {record : ApprovalRecord}
    {len extra : Nat} (size : (recordJson record).encodedLen = len)
    (bytes : orphanBytes reason (now approvalId) = extra) :
    hasRoom reason now (approvalId, record) = decide (len + extra ≤ maxApprovalRecordBytes) := by
  rw [← size, ← bytes, hasRoom]

/-- Whether a reason of some length has room in the two records. -/
theorem crowded_hasRoom {extra : Nat} (bytes : orphanBytes reason 2000 = extra) :
    hasRoom reason (fun _ => 2000) ("approval-0", smallRecord) =
        decide (440 + extra ≤ maxApprovalRecordBytes) ∧
      hasRoom reason (fun _ => 2000) ("approval-1", largeRecord) =
        decide (519440 + extra ≤ maxApprovalRecordBytes) := by
  have small : (recordJson smallRecord).encodedLen = 440 := by decide +kernel
  exact ⟨hasRoom_eq small bytes, hasRoom_eq largeRecord_len bytes⟩

/-- A reason that has room in the first record only halves the Turn; one that has room in
both does not. -/
theorem crowded_iff (valid : validateReason "orphan" reason = .ok ()) {extra : Nat}
    (bytes : orphanBytes reason 2000 = extra) (some : 440 + extra ≤ 525312) :
    EvenRoom crowdedRecords "thread-1" "turn-1" reason .localProcess (fun _ => 2000) ↔
      519440 + extra ≤ 525312 := by
  obtain ⟨first, second⟩ := crowded_hasRoom bytes
  have tenant : AuthorityContext.localProcess.tenantId = none := rfl
  have bound : maxApprovalRecordBytes = 525312 := rfl
  rw [bound] at first second
  rw [EvenRoom, tenant, openOf_crowdedRecords, or_iff_right fun refused => refused (validOrphan valid)]
  simp [first, second, some]

/-- **A reason that the second approval has no room for** orphans the first one, and the
call fails. -/
theorem crowded_turn_half_orphaned :
    (memory crowdedRecords).Reachable ∧
      validateOrphan "thread-1" "turn-1" quotes .localProcess = .ok () ∧
      ¬ (memory crowdedRecords).OrphansAllOrNothing "thread-1" "turn-1" quotes .localProcess
        fun _ => 2000 := by
  have digits : (jsonU64 2000).encodedLen = 4 := by decide
  have bytes : orphanBytes quotes 2000 = 8205 := by rw [orphanBytes, quotes_len, digits]
  have uneven := (crowded_iff (quotes_valid "orphan") bytes (by decide)).not.2 (by decide)
  exact ⟨crowdedRecords_reachable, validOrphan (quotes_valid "orphan"),
    (memory_allOrNothing_iff crowdedRecords_reachable.sound ..).not.2 uneven⟩

/-- A short reason has room in both approvals. -/
theorem orphaning_all_or_nothing_iff_crowded :
    (memory crowdedRecords).OrphansAllOrNothing "thread-1" "turn-1" "abandoned" .localProcess
      fun _ => 2000 := by
  have loop := (orphaning_all_or_nothing_iff crowdedRecords_reachable "thread-1" "turn-1"
    "abandoned" .localProcess fun _ => 2000).1 _ rfl
  have valid : validateReason "orphan" "abandoned" = .ok () := by decide +kernel
  have bytes : orphanBytes "abandoned" 2000 = 22 := by decide +kernel
  rw [loop, crowded_iff valid bytes (by decide)]
  decide

end Sample

end ApprovalInbox

end YHarness.Approval

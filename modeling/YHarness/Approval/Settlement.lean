/-
# YHarness.Approval.Settlement -- an approval is settled once

`held` reads an inbox as a function from identities to records, the same for both
stores; `Sound` says that every record is as a submission or a settlement wrote it,
and that a row's columns are those of its record.  Each call is specified by them
once; together they say that a call creates records of its own tenant or settles
pending ones (`call_moves`), from which the run theorem follows.
-/
import YHarness.Lib.Revisions
import YHarness.Approval.Inbox

namespace YHarness.Approval

open YHarness.Lib YHarness.Kernel
open YHarness.Runtime (ApprovalRecord ApprovalRecordStatus)

set_option autoImplicit false

/-! ## What an inbox holds -/

/-- A record as a submission or a settlement left it. -/
structure Stored (approvalId : ApprovalId) (record : ApprovalRecord) : Prop where
  id : record.request.id = approvalId
  valid : validateRecord record = .ok ()
  stage : Fresh record ∨ record.status ≠ .pending

namespace ApprovalInbox

def held : ApprovalInbox → ApprovalId → Option ApprovalRecord
  | memory records, approvalId => records[approvalId]?
  | sqlite rows, approvalId => rows[approvalId]?.map (·.record)

structure Sound (inbox : ApprovalInbox) : Prop where
  stored : ∀ approvalId record, inbox.held approvalId = some record → Stored approvalId record
  columns : ∀ rows, inbox = sqlite rows → ∀ (approvalId : ApprovalId) (row : ApprovalRow),
    rows[approvalId]? = some row → row = .ofRecord row.record

theorem memory_empty_sound : (memory ∅).Sound := by
  refine ⟨fun approvalId record found => ?_, nofun⟩
  have absent : (∅ : OrdMap ApprovalId ApprovalRecord)[approvalId]? = none :=
    OrdMap.get?_empty approvalId
  rw [held, absent] at found
  cases found

theorem sqlite_empty_sound : (sqlite ∅).Sound := by
  have absent : ∀ approvalId, (∅ : OrdMap ApprovalId ApprovalRow)[approvalId]? = none :=
    OrdMap.get?_empty
  refine ⟨fun approvalId record found => ?_, fun rows same approvalId row found => ?_⟩
  · rw [held, absent] at found
    cases found
  · cases same
    rw [absent] at found
    cases found

variable {approvalId : ApprovalId} {record : ApprovalRecord}
  {records : OrdMap ApprovalId ApprovalRecord} {rows : OrdMap ApprovalId ApprovalRow}
  {tenantId : Option String}

/-- A record written to the map. -/
theorem Sound.memory_insert (sound : (memory records).Sound) (stored : Stored approvalId record) :
    (memory (records.insert approvalId record)).Sound ∧
      (memory (records.insert approvalId record)).held =
        Function.update (memory records).held approvalId (some record) := by
  have written : (memory (records.insert approvalId record)).held =
      Function.update (memory records).held approvalId (some record) :=
    OrdMap.get?_insert records approvalId record
  refine ⟨⟨?_, nofun⟩, written⟩
  rw [written]
  exact forall_update sound.stored stored

/-- A row written to the table. -/
theorem Sound.sqlite_insert (sound : (sqlite rows).Sound) (stored : Stored approvalId record) :
    (sqlite (rows.insert approvalId (.ofRecord record))).Sound ∧
      (sqlite (rows.insert approvalId (.ofRecord record))).held =
        Function.update (sqlite rows).held approvalId (some record) := by
  have written : (sqlite (rows.insert approvalId (.ofRecord record))).held =
      Function.update (sqlite rows).held approvalId (some record) :=
    OrdMap.map_get?_insert rows approvalId (.ofRecord record) ApprovalRow.record
  refine ⟨⟨?_, fun rows' same => ?_⟩, written⟩
  · rw [written]
    exact forall_update sound.stored stored
  · cases same
    exact OrdMap.forall_insert (sound.columns rows rfl) rfl

/-! ## Reading -/

theorem read_eq {row : ApprovalRow} (read : row.read = .ok record) :
    record = row.record := by
  iterate 5 replace read := rest_ok read
  cases read
  rfl

theorem ownRecord_eq_some :
    ownRecord records approvalId tenantId = some record ↔
      (memory records).held approvalId = some record ∧ record.tenantId = tenantId := by
  rw [ownRecord, Option.filter_eq_some_iff, beq_iff_eq]
  rfl

/-- A selected row is the row of the record held, which is of the tenant. -/
theorem selectRow_eq_some (sound : (sqlite rows).Sound) {row : ApprovalRow}
    (selected : selectRow rows approvalId tenantId = some row) :
    (sqlite rows).held approvalId = some row.record ∧ row.record.tenantId = tenantId ∧
      row = .ofRecord row.record := by
  rw [selectRow, Option.filter_eq_some_iff, beq_iff_eq] at selected
  obtain ⟨found, owner⟩ := selected
  have columns := sound.columns rows rfl approvalId row found
  refine ⟨?_, ?_, columns⟩
  · rw [held, found]
    rfl
  · rw [columns] at owner
    exact owner

end ApprovalInbox

/-! ## Settlements -/

/-- What a settlement or an orphaning does to a record. -/
structure Settles (before after : ApprovalRecord) : Prop where
  pending : before.status = .pending
  terminal : after.status ≠ .pending
  revision : after.revision.toNat = before.revision.toNat + 1
  same : after = { before with
    status := after.status, revision := after.revision, settledAtMs := after.settledAtMs }

theorem toNat_nextRevision {revision next : UInt64} (counted : nextRevision revision = .ok next) :
    next.toNat = revision.toNat + 1 :=
  toNat_checkedNext counted

theorem settleRecord_settles {record settled : ApprovalRecord} {expected now : UInt64}
    {decision : ApprovalDecision} {decidedBy : ApprovalActor}
    (succeeds : settleRecord record expected decision decidedBy now = .ok settled) :
    record.revision = expected ∧ record.request.requestedBy ≠ decidedBy ∧
      settled.status = .settled decision decidedBy ∧ Settles record settled := by
  obtain ⟨current, succeeds⟩ := seq_eq_ok.1 succeeds
  obtain ⟨pending, succeeds⟩ := seq_eq_ok.1 succeeds
  replace succeeds := rest_ok succeeds
  obtain ⟨separate, succeeds⟩ := seq_eq_ok.1 succeeds
  obtain ⟨revision, counted, succeeds⟩ := bind_eq_ok.1 succeeds
  replace succeeds := rest_ok succeeds
  cases succeeds
  rw [rejectIf_bne] at current pending
  rw [rejectIf_eq_ok, beq_eq_false_iff_ne] at separate
  exact ⟨current, separate, rfl, pending, nofun, toNat_nextRevision counted, rfl⟩

theorem orphanRecord_settles {record orphaned : ApprovalRecord} {reason : String} {now : UInt64}
    (pending : record.status = .pending)
    (succeeds : orphanRecord record reason now = .ok orphaned) :
    orphaned.status = .orphaned reason ∧ Settles record orphaned := by
  rw [orphanRecord, if_neg fun other => other pending] at succeeds
  obtain ⟨revision, counted, succeeds⟩ := bind_eq_ok.1 succeeds
  replace succeeds := rest_ok succeeds
  cases succeeds
  exact ⟨rfl, pending, by simp, toNat_nextRevision counted, rfl⟩

theorem Settles.stored {approvalId : ApprovalId} {before after : ApprovalRecord}
    (settles : Settles before after) (stored : Stored approvalId before)
    (valid : validateRecord after = .ok ()) : Stored approvalId after := by
  refine ⟨?_, valid, .inr settles.terminal⟩
  rw [settles.same]
  exact stored.id

/-- The row that an `UPDATE` leaves is the row of the settled record. -/
theorem ApprovalRow.rewritten {row : ApprovalRow} {after : ApprovalRecord} {status : String}
    {revision : Int} (columns : row = .ofRecord row.record) (settles : Settles row.record after)
    (named : statusName after.status = status) (revised : revision = after.revision.toNat) :
    { row with status, revision, record := after } = ApprovalRow.ofRecord after := by
  subst named revised
  rw [columns, ApprovalRow.ofRecord, ApprovalRow.ofRecord, settles.same]

/-! ## What the calls do -/

namespace ApprovalInbox

variable {inbox next : ApprovalInbox} {authority : AuthorityContext}

variable {tenantId : Option String} {approvalId : ApprovalId} {rows : OrdMap ApprovalId ApprovalRow}
  {before after : ApprovalId → Option ApprovalRecord} {record : ApprovalRecord}

/-- **A submission** returns the record held, or creates one under a free identity. -/
theorem submitAs_spec (sound : inbox.Sound) {request : ApprovalRequest} {now : UInt64}
    (submitted : inbox.submitAs request authority now = .ok (record, next)) :
    next.Sound ∧ record.request = request ∧ record.tenantId = authority.tenantId ∧
      ((inbox.held request.id = some record ∧ next = inbox) ∨
        (inbox.held request.id = none ∧ record.status = .pending ∧
          next.held = Function.update inbox.held request.id (some record))) := by
  obtain ⟨requested, submitted⟩ := seq_eq_ok.1 submitted
  obtain ⟨submits, submitted⟩ := seq_eq_ok.1 submitted
  have admits : validateRecord (newRecord request authority.tenantId now) = .ok () →
      admitRecord request authority now = .ok (newRecord request authority.tenantId now) :=
    fun valid => seq_eq_ok.2 ⟨requested, seq_eq_ok.2 ⟨submits, seq_eq_ok.2 ⟨valid, rfl⟩⟩⟩
  have matching : ∀ {existing}, matchingRequest existing request authority.tenantId = .ok record →
      record = existing ∧ record.request = request ∧ record.tenantId = authority.tenantId := by
    intro existing matched
    unfold matchingRequest at matched
    split at matched
    · rename_i same
      cases matched
      exact ⟨rfl, same⟩
    · cases matched
  cases inbox with
  | memory records =>
    dsimp only at submitted
    cases found : records[request.id]? with
    | some existing =>
      rw [found] at submitted
      obtain ⟨returned, matched, submitted⟩ := bind_eq_ok.1 submitted
      cases submitted
      obtain ⟨rfl, sameRequest, sameTenant⟩ := matching matched
      exact ⟨sound, sameRequest, sameTenant, .inl ⟨found, rfl⟩⟩
    | none =>
      rw [found] at submitted
      replace submitted := rest_ok submitted
      obtain ⟨valid, submitted⟩ := seq_eq_ok.1 submitted
      cases submitted
      have written := sound.memory_insert
        ⟨rfl, valid, .inl (admitRecord_fresh (admits valid))⟩
      exact ⟨written.1, rfl, rfl, .inr ⟨found, rfl, written.2⟩⟩
  | sqlite rows =>
    dsimp only at submitted
    cases selected : selectRow rows request.id authority.tenantId with
    | some row =>
      rw [selected] at submitted
      obtain ⟨existing, read, submitted⟩ := bind_eq_ok.1 submitted
      obtain ⟨returned, matched, submitted⟩ := bind_eq_ok.1 submitted
      cases submitted
      obtain ⟨rfl, sameRequest, sameTenant⟩ := matching matched
      obtain rfl := read_eq read
      exact ⟨sound, sameRequest, sameTenant, .inl ⟨(selectRow_eq_some sound selected).1, rfl⟩⟩
    | none =>
      rw [selected] at submitted
      replace submitted := rest_ok submitted
      obtain ⟨encoded, submitted⟩ := seq_eq_ok.1 submitted
      obtain ⟨revision, revised, submitted⟩ := bind_eq_ok.1 submitted
      obtain ⟨requestedAtMs, requestedAt, submitted⟩ := bind_eq_ok.1 submitted
      obtain ⟨free, submitted⟩ := seq_eq_ok.1 submitted
      cases submitted
      have valid := (seq_eq_ok.1 encoded).1
      rw [rejectIf_eq_ok, Std.ExtTreeMap.contains_eq_isSome_getElem?,
        Option.isSome_eq_false_iff, Option.isNone_iff_eq_none] at free
      have absent : (sqlite rows).held request.id = none := by
        rw [held, free]
        rfl
      have written := sound.sqlite_insert
        ⟨rfl, valid, .inl (admitRecord_fresh (admits valid))⟩
      rw [(i64TryFrom_eq_ok.1 revised).2, (i64TryFrom_eq_ok.1 requestedAt).2]
      exact ⟨written.1, rfl, rfl, .inr ⟨absent, rfl, written.2⟩⟩

/-- **A decision** settles the pending record of the expected revision, and was not
made by its requester. -/
theorem settleAs_spec (sound : inbox.Sound) {expectedRevision now : UInt64}
    {decision : ApprovalDecision} {settled : ApprovalRecord}
    (succeeds : inbox.settleAs approvalId expectedRevision decision authority now =
      .ok (settled, next)) :
    next.Sound ∧ next.held = Function.update inbox.held approvalId (some settled) ∧
      ∃ record, inbox.held approvalId = some record ∧ record.tenantId = authority.tenantId ∧
        record.revision = expectedRevision ∧ record.request.requestedBy ≠ authority.actor ∧
        settled.status = .settled decision authority.actor ∧ Settles record settled := by
  iterate 3 replace succeeds := rest_ok succeeds
  cases inbox with
  | memory records =>
    obtain ⟨record, found, succeeds⟩ := bind_eq_ok.1 succeeds
    obtain ⟨settled', settles, succeeds⟩ := bind_eq_ok.1 succeeds
    cases succeeds
    obtain ⟨here, owner⟩ := ownRecord_eq_some.1 (orError_eq_ok.1 found)
    obtain ⟨current, separate, status, step⟩ := settleRecord_settles settles
    have written := sound.memory_insert
      (step.stored (sound.stored _ _ here) (validateRecord_of_settleRecord settles))
    exact ⟨written.1, written.2, record, here, owner, current, separate, status, step⟩
  | sqlite rows =>
    obtain ⟨row, found, succeeds⟩ := bind_eq_ok.1 succeeds
    obtain ⟨record, read, succeeds⟩ := bind_eq_ok.1 succeeds
    obtain ⟨settled', settles, succeeds⟩ := bind_eq_ok.1 succeeds
    obtain ⟨encoded, succeeds⟩ := seq_eq_ok.1 succeeds
    obtain ⟨revision, revised, succeeds⟩ := bind_eq_ok.1 succeeds
    obtain ⟨expected, _, succeeds⟩ := bind_eq_ok.1 succeeds
    replace succeeds := rest_ok succeeds
    cases succeeds
    obtain ⟨here, owner, columns⟩ := selectRow_eq_some sound (orError_eq_ok.1 found)
    obtain rfl := read_eq read
    obtain ⟨current, separate, status, step⟩ := settleRecord_settles settles
    have written := sound.sqlite_insert
      (step.stored (sound.stored _ _ here) (validateRecord_of_settleRecord settles))
    have named : statusName settled.status = "settled" := by rw [status]; rfl
    rw [← ApprovalRow.rewritten columns step named (i64TryFrom_eq_ok.1 revised).2] at written
    exact ⟨written.1, written.2, row.record, here, owner, current, separate, status, step⟩

/-! ## Orphaning a Turn -/

/-- Only pending records of the tenant change, and they are settled. -/
def Orphans (tenantId : Option String) (before after : ApprovalId → Option ApprovalRecord) : Prop :=
  ∀ approvalId, after approvalId = before approvalId ∨
    ∃ record orphaned, before approvalId = some record ∧ after approvalId = some orphaned ∧
      record.tenantId = tenantId ∧ Settles record orphaned

theorem Orphans.refl (tenantId : Option String) (held : ApprovalId → Option ApprovalRecord) :
    Orphans tenantId held held :=
  fun _ => .inl rfl

theorem Orphans.trans {first second third : ApprovalId → Option ApprovalRecord}
    (left : Orphans tenantId first second) (right : Orphans tenantId second third) :
    Orphans tenantId first third := by
  intro approvalId
  rcases left approvalId with same | ⟨record, orphaned, before, after, owner, settles⟩
  · rw [← same]
    exact right approvalId
  · rcases right approvalId with same | ⟨again, _, here, _, _, settles'⟩
    · exact .inr ⟨record, orphaned, before, same.trans after, owner, settles⟩
    · rw [after] at here
      cases here
      exact absurd settles'.pending settles.terminal

theorem Orphans.update {held : ApprovalId → Option ApprovalRecord}
    {record orphaned : ApprovalRecord} (found : held approvalId = some record)
    (owner : record.tenantId = tenantId) (settles : Settles record orphaned) :
    Orphans tenantId held (Function.update held approvalId (some orphaned)) := by
  intro other
  by_cases same : other = approvalId
  · subst same
    exact .inr ⟨record, orphaned, found, Function.update_self .., owner, settles⟩
  · exact .inl (Function.update_of_ne same ..)

/-- A record after the change is an earlier one of the same Turn; a pending one is unchanged. -/
theorem Orphans.earlier (orphans : Orphans tenantId before after)
    (found : after approvalId = some record) :
    ∃ old, before approvalId = some old ∧
      (∀ threadId turnId tenant, ofTurn threadId turnId tenant record =
        ofTurn threadId turnId tenant old) ∧ (record.status = .pending → record = old) := by
  rcases orphans approvalId with same | ⟨old, orphaned, here, there, _, settles⟩
  · exact ⟨record, same ▸ found, fun _ _ _ => rfl, fun _ => rfl⟩
  · rw [found] at there
    cases there
    refine ⟨old, here, fun _ _ _ => ?_, fun pending => absurd pending settles.terminal⟩
    rw [settles.same]
    rfl

/-- What has no open record under an identity has none after more is orphaned. -/
theorem Orphans.closed (orphans : Orphans tenantId before after)
    (closed : ∀ record, before approvalId = some record → record.status ≠ .pending) :
    ∀ record, after approvalId = some record → record.status ≠ .pending := by
  intro record found pending
  obtain ⟨old, here, _, unchanged⟩ := orphans.earlier found
  rw [unchanged pending] at pending
  exact closed old here pending

/-- The loop over the map, wherever it stops. -/
theorem orphanRecords_spec {reason : String} {now : ApprovalId → UInt64} {tenantId : Option String}
    (entries : List (ApprovalId × ApprovalRecord)) (records : OrdMap ApprovalId ApprovalRecord)
    (changed : Nat) (sound : (memory records).Sound)
    (chosen : ∀ entry ∈ entries, (memory records).held entry.1 = some entry.2 ∧
      entry.2.tenantId = tenantId ∧ entry.2.status = .pending)
    (distinct : (entries.map (·.1)).Nodup) :
    (memory (orphanRecords reason now entries records changed).2).Sound ∧
      Orphans tenantId (memory records).held
        (memory (orphanRecords reason now entries records changed).2).held ∧
      (∀ n, (orphanRecords reason now entries records changed).1 = .ok n → ∀ entry ∈ entries,
        ∀ record, (memory (orphanRecords reason now entries records changed).2).held entry.1 =
          some record → record.status ≠ .pending) := by
  induction entries generalizing records changed with
  | nil => exact ⟨sound, .refl _ _, by simp⟩
  | cons entry rest ih =>
    obtain ⟨approvalId, record⟩ := entry
    obtain ⟨found, owner, pending⟩ := chosen _ List.mem_cons_self
    rw [List.map_cons, List.nodup_cons] at distinct
    unfold orphanRecords
    cases orphans : orphanRecord record reason (now approvalId) with
    | error error => exact ⟨sound, .refl _ _, nofun⟩
    | ok orphaned =>
      dsimp only
      have settles := (orphanRecord_settles pending orphans).2
      obtain ⟨sound', written⟩ := sound.memory_insert
        (settles.stored (sound.stored _ _ found) (validateRecord_of_orphanRecord pending orphans))
      have later : ∀ entry ∈ rest,
          (memory (records.insert approvalId orphaned)).held entry.1 = some entry.2 ∧
            entry.2.tenantId = tenantId ∧ entry.2.status = .pending := by
        intro entry member
        obtain ⟨here, rest'⟩ := chosen entry (List.mem_cons_of_mem _ member)
        have apart : entry.1 ≠ approvalId := by
          intro same
          exact distinct.1 (List.mem_map.2 ⟨entry, member, same⟩)
        rw [written, Function.update_of_ne apart]
        exact ⟨here, rest'⟩
      obtain ⟨finally', moved, rest'⟩ := ih (records.insert approvalId orphaned)
        (changed + 1) sound' later distinct.2
      rw [written] at moved
      refine ⟨finally', (Orphans.update found owner settles).trans moved, fun n succeeds => ?_⟩
      refine List.forall_mem_cons.2 ⟨moved.closed fun record here => ?_, rest' n succeeds⟩
      rw [Function.update_self] at here
      cases here
      exact settles.terminal

/-- The loop of the transaction. -/
theorem orphanRows_spec {reason : String} {now : ApprovalId → UInt64}
    (approvalIds : List ApprovalId) (rows : OrdMap ApprovalId ApprovalRow) (changed : Nat)
    (sound : (sqlite rows).Sound) {result : Nat × OrdMap ApprovalId ApprovalRow}
    (orphans : orphanRows reason tenantId now approvalIds rows changed = .ok result) :
    (sqlite result.2).Sound ∧ Orphans tenantId (sqlite rows).held (sqlite result.2).held ∧
      ∀ approvalId ∈ approvalIds, ∀ record, (sqlite result.2).held approvalId = some record →
        record.status ≠ .pending := by
  induction approvalIds generalizing rows changed with
  | nil =>
    cases orphans
    exact ⟨sound, .refl _ _, by simp⟩
  | cons approvalId rest ih =>
    obtain ⟨row, found, orphans⟩ := bind_eq_ok.1 orphans
    obtain ⟨record, read, orphans⟩ := bind_eq_ok.1 orphans
    obtain rfl := read_eq read
    obtain ⟨orphaned, orphan, orphans⟩ := bind_eq_ok.1 orphans
    replace orphans := rest_ok orphans
    obtain ⟨revision, revised, orphans⟩ := bind_eq_ok.1 orphans
    obtain ⟨here, owner, columns⟩ := selectRow_eq_some sound (orError_eq_ok.1 found)
    have stored := sound.stored _ _ here
    by_cases pending : row.record.status = .pending
    · obtain ⟨status, settles⟩ := orphanRecord_settles pending orphan
      have sameId : orphaned.request.id = approvalId := by
        rw [settles.same]
        exact stored.id
      have open' : row.status = "pending" := by
        rw [columns]
        show statusName row.record.status = "pending"
        rw [pending]
        rfl
      rw [sameId, orError_eq_ok.1 found, Option.filter_some, if_pos (beq_iff_eq.2 open')] at orphans
      dsimp only at orphans
      have named : statusName orphaned.status = "orphaned" := by rw [status]; rfl
      rw [ApprovalRow.rewritten columns settles named (i64TryFrom_eq_ok.1 revised).2] at orphans
      obtain ⟨sound', written⟩ := sound.sqlite_insert
        (settles.stored stored (validateRecord_of_orphanRecord pending orphan))
      obtain ⟨finally', moved, rest'⟩ := ih _ _ sound' orphans
      rw [written] at moved
      refine ⟨finally', (Orphans.update here owner settles).trans moved,
        List.forall_mem_cons.2 ⟨moved.closed fun record now => ?_, rest'⟩⟩
      rw [Function.update_self] at now
      cases now
      exact settles.terminal
    · -- a record that is no longer pending is left alone by the `UPDATE`
      rw [orphanRecord, if_pos pending] at orphan
      cases orphan
      have closed : ¬ row.status = "pending" := by
        intro open'
        rw [columns] at open'
        have named : statusName row.record.status = "pending" := open'
        cases stage : row.record.status with
        | pending => exact pending stage
        | settled decision decidedBy =>
          rw [stage] at named
          exact absurd (show "settled" = "pending" from named) (by decide)
        | orphaned reason =>
          rw [stage] at named
          exact absurd (show "orphaned" = "pending" from named) (by decide)
      rw [stored.id, orError_eq_ok.1 found, Option.filter_some,
        if_neg fun same => closed (beq_iff_eq.1 same)] at orphans
      obtain ⟨finally', moved, rest'⟩ := ih _ _ sound orphans
      refine ⟨finally', moved, List.forall_mem_cons.2 ⟨moved.closed fun record now => ?_, rest'⟩⟩
      rw [here] at now
      cases now
      exact pending

/-- No approval of the Turn is open. -/
def NonePending (inbox : ApprovalInbox) (threadId : ThreadId) (turnId : TurnId)
    (tenantId : Option String) : Prop :=
  ∀ approvalId record, inbox.held approvalId = some record →
    ofTurn threadId turnId tenantId record = true → record.status ≠ .pending

/-- No Turn has more records than one transaction orphans. -/
def TurnsBounded (inbox : ApprovalInbox) : Prop :=
  ∀ (threadId : ThreadId) (turnId : TurnId) (tenantId : Option String)
    (approvalIds : List ApprovalId), approvalIds.Nodup →
    (∀ approvalId ∈ approvalIds, ∃ record, inbox.held approvalId = some record ∧
      ofTurn threadId turnId tenantId record = true) → approvalIds.length ≤ maxApprovalsPerTurn

/-- A row is of the Turn of its record, and says whether that is open. -/
theorem Sound.row_eq (sound : (sqlite rows).Sound) {row : ApprovalRow}
    (found : rows[approvalId]? = some row) :
    (sqlite rows).held approvalId = some row.record ∧
      (∀ threadId turnId tenantId, ApprovalRow.ofTurn threadId turnId tenantId row =
        ofTurn threadId turnId tenantId row.record) ∧
      (row.status = "pending" ↔ row.record.status = .pending) := by
  have columns := sound.columns rows rfl approvalId row found
  refine ⟨by rw [held, found]; rfl, fun _ _ _ => by rw [columns]; rfl, ?_⟩
  rw [columns]
  show statusName row.record.status = "pending" ↔ row.record.status = .pending
  cases row.record.status <;> simp [statusName]

/-- The rows of a Turn that are open are no more than one transaction orphans. -/
theorem Sound.openRows_length (sound : (sqlite rows).Sound) (bounded : (sqlite rows).TurnsBounded)
    (threadId : ThreadId) (turnId : TurnId) (tenantId : Option String) :
    (rows.toList.filter fun entry => ApprovalRow.ofTurn threadId turnId tenantId entry.2 &&
      entry.2.status == "pending").length ≤ maxApprovalsPerTurn := by
  rw [← List.length_map (·.1)]
  refine bounded threadId turnId tenantId _
    ((OrdMap.nodup_keys rows).sublist (List.filter_sublist.map _)) ?_
  intro approvalId member
  obtain ⟨⟨key, row⟩, chosen, rfl⟩ := List.mem_map.1 member
  rw [List.mem_filter, Bool.and_eq_true] at chosen
  obtain ⟨found, columns, _⟩ := sound.row_eq (OrdMap.mem_toList.1 chosen.1)
  exact ⟨row.record, found, by rw [← columns]; exact chosen.2.1⟩

/-- An identity is among those of the open rows exactly when its record is open. -/
theorem Sound.mem_openRows (sound : (sqlite rows).Sound) {threadId : ThreadId} {turnId : TurnId}
    (found : (sqlite rows).held approvalId = some record) :
    approvalId ∈ (rows.toList.filter fun entry =>
        ApprovalRow.ofTurn threadId turnId tenantId entry.2 &&
          entry.2.status == "pending").map (·.1) ↔
      (ofTurn threadId turnId tenantId record && isPending record) = true := by
  obtain ⟨row, there, rfl⟩ := Option.map_eq_some_iff.1 found
  obtain ⟨_, columns, pending⟩ := sound.row_eq there
  rw [← columns, isPending, List.mem_map]
  constructor
  · rintro ⟨entry, member, rfl⟩
    obtain ⟨known, chosen⟩ := List.mem_filter.1 member
    rw [OrdMap.mem_toList, there] at known
    cases known
    rw [Bool.and_eq_true, beq_iff_eq] at chosen ⊢
    exact ⟨chosen.1, pending.1 chosen.2⟩
  · intro chosen
    refine ⟨(approvalId, row), List.mem_filter.2 ⟨OrdMap.mem_toList.2 there, ?_⟩, rfl⟩
    rw [Bool.and_eq_true, beq_iff_eq] at chosen ⊢
    exact ⟨chosen.1, pending.2 chosen.2⟩

/-- **Orphaning a Turn** settles pending records of it only, and all of them if it succeeds. -/
theorem orphanTurnAs_spec (sound : inbox.Sound) (threadId : ThreadId) (turnId : TurnId)
    (reason : String) (now : ApprovalId → UInt64) :
    (inbox.orphanTurnAs threadId turnId reason authority now).2.Sound ∧
      Orphans authority.tenantId inbox.held
        (inbox.orphanTurnAs threadId turnId reason authority now).2.held ∧
      ∀ n, (inbox.orphanTurnAs threadId turnId reason authority now).1 = .ok n →
        inbox.TurnsBounded → (inbox.orphanTurnAs threadId turnId reason authority now).2.NonePending
          threadId turnId authority.tenantId := by
  -- `approvalIds` are the identities of the open records of the Turn
  have of_loop : ∀ {next : ApprovalInbox} {approvalIds : List ApprovalId},
      Orphans authority.tenantId inbox.held next.held →
      (∀ approvalId ∈ approvalIds, ∀ record, next.held approvalId = some record →
        record.status ≠ .pending) →
      (∀ approvalId record, inbox.held approvalId = some record →
        ofTurn threadId turnId authority.tenantId record = true → record.status = .pending →
          approvalId ∈ approvalIds) →
      next.NonePending threadId turnId authority.tenantId := by
    intro next approvalIds moved closed selected approvalId record found chosen pending
    obtain ⟨old, here, same, unchanged⟩ := moved.earlier found
    obtain rfl := unchanged pending
    exact closed approvalId (selected approvalId record here chosen pending) record found pending
  unfold orphanTurnAs
  cases validateOrphan threadId turnId reason authority with
  | error error => exact ⟨sound, .refl _ _, nofun⟩
  | ok _ =>
    cases inbox with
    | memory records =>
      obtain ⟨sound', moved, closed⟩ := @orphanRecords_spec reason now authority.tenantId
        (records.toList.filter fun entry =>
          ofTurn threadId turnId authority.tenantId entry.2 && isPending entry.2) records 0 sound
        (by
          rintro ⟨approvalId, record⟩ member
          rw [List.mem_filter, Bool.and_eq_true] at member
          obtain ⟨known, chosen, pending⟩ := member
          simp only [ofTurn, Bool.and_eq_true, beq_iff_eq] at chosen
          exact ⟨OrdMap.mem_toList.1 known, chosen.1.1, beq_iff_eq.1 pending⟩)
        ((OrdMap.nodup_keys records).sublist (List.filter_sublist.map _))
      refine ⟨sound', moved, fun n succeeds _ =>
        of_loop moved (List.forall_mem_map.2 (closed n succeeds)) ?_⟩
      intro approvalId record found chosen pending
      refine List.mem_map.2 ⟨(approvalId, record), List.mem_filter.2
        ⟨OrdMap.mem_toList.2 found, ?_⟩, rfl⟩
      rw [chosen, isPending, pending]
      rfl
    | sqlite rows =>
      dsimp only
      cases orphans : orphanTransaction rows threadId turnId reason authority.tenantId now with
      | error error => exact ⟨sound, .refl _ _, nofun⟩
      | ok result =>
        obtain ⟨_, looped⟩ := seq_eq_ok.1 orphans
        obtain ⟨sound', moved, closed⟩ := orphanRows_spec _ rows 0 sound looped
        refine ⟨sound', moved, fun n _ bounded => of_loop moved closed ?_⟩
        -- the transaction takes as many rows as a Turn has at most
        rw [List.take_of_length_le (sound.openRows_length bounded ..)]
        intro approvalId record found chosen pending
        refine (sound.mem_openRows found).2 ?_
        rw [chosen, isPending, pending]
        rfl

end ApprovalInbox

end YHarness.Approval

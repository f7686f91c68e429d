/-
# YHarness.Approval.Reserve -- whether an admitted approval can be decided

A pending record is admitted with a reserve of `approvalTerminalRecordReserveBytes`
for its settlement.  The reserve counts the bytes of a reason before they are
escaped, so a decision fits exactly when its encoding does (`decidable_iff_fits`):
a reason of quotes or backslashes takes twice its bytes, and near the admission
bound neither such a denial nor such an orphaning is ever accepted
(`undecidable_approval`).
-/
import YHarness.Approval.Record

namespace YHarness.Approval

open YHarness.Lib YHarness.Kernel
open YHarness.Runtime (ApprovalRecord ApprovalRecordStatus)
open YHarness.State (maxApprovalRecordBytes approvalInboxSchemaVersion)

set_option autoImplicit false

/-! ## Admitted records -/

/-- What the admission of a record has checked. -/
structure Fresh (record : ApprovalRecord) : Prop where
  schema : record.schemaVersion = approvalInboxSchemaVersion
  request : validateRequest record.request = .ok ()
  requester : record.request.requestedBy ≠ .unattributedLegacy
  tenant : validateTenant record.tenantId = .ok ()
  status : record.status = .pending
  revision : record.revision = 1
  settledAtMs : record.settledAtMs = none

theorem current_ne_legacy {kind : String} {actor : ActorIdentity}
    (current : actor.validateCurrent kind = .ok ()) : actor ≠ .unattributedLegacy := by
  rintro rfl
  obtain ⟨_, rejected⟩ := seq_eq_ok.1 (mapError_eq_ok.1 current)
  cases rejected

theorem shape_of_current {kind : String} {actor : ActorIdentity}
    (current : actor.validateCurrent kind = .ok ()) : validateRecordActor kind actor = .ok () :=
  mapError_eq_ok.2 (seq_eq_ok.1 (mapError_eq_ok.1 current)).1

theorem admitRecord_fresh {request : ApprovalRequest} {authority : AuthorityContext}
    {now : UInt64} {record : ApprovalRecord}
    (admitted : admitRecord request authority now = .ok record) : Fresh record := by
  obtain ⟨requested, admitted⟩ := seq_eq_ok.1 admitted
  obtain ⟨submitted, admitted⟩ := seq_eq_ok.1 admitted
  replace admitted := rest_ok admitted
  cases admitted
  obtain ⟨valid, current⟩ := seq_eq_ok.1 requested
  obtain ⟨authorized, _⟩ := seq_eq_ok.1 submitted
  exact ⟨rfl, valid, current_ne_legacy current, (seq_eq_ok.1 (mapError_eq_ok.1 authorized)).2,
    rfl, rfl, rfl⟩

/-! ## Sizes -/

/-- What changes in the size of a record when it is settled. -/
theorem recordJson_len (record : ApprovalRecord) (status : ApprovalRecordStatus)
    (revision : UInt64) (settledAtMs : Option UInt64) :
    (recordJson { record with status, revision, settledAtMs }).encodedLen +
        ((statusJson record.status).encodedLen + (jsonU64 record.revision).encodedLen +
          (nullable jsonU64 record.settledAtMs).encodedLen) =
      (recordJson record).encodedLen +
        ((statusJson status).encodedLen + (jsonU64 revision).encodedLen +
          (nullable jsonU64 settledAtMs).encodedLen) := by
  simp only [recordJson, Json.encodedLen, fieldsLen_append, fieldsLen, List.length_append,
    List.length_cons, List.length_nil]
  omega

/-- The bytes that orphaning adds to a pending record. -/
def orphanBytes (reason : String) (now : UInt64) : Nat :=
  7 + stringLen reason + (jsonU64 now).encodedLen

/-- The bytes that a decision adds to a pending record. -/
def settlementBytes (decision : ApprovalDecision) (decidedBy : ApprovalActor) (now : UInt64) : Nat :=
  22 + decision.toJson.encodedLen + decidedBy.toJson.encodedLen + (jsonU64 now).encodedLen

theorem Fresh.len {record : ApprovalRecord} (fresh : Fresh record) (status : ApprovalRecordStatus)
    (now : UInt64) :
    (recordJson { record with status, revision := 2, settledAtMs := some now }).encodedLen + 24 =
      (recordJson record).encodedLen +
        ((statusJson status).encodedLen + (jsonU64 now).encodedLen) := by
  have size := recordJson_len record status 2 (some now)
  rw [fresh.status, fresh.revision, fresh.settledAtMs] at size
  have pending : (statusJson .pending).encodedLen = 20 := by decide
  have first : (jsonU64 1).encodedLen = 1 := by decide
  have second : (jsonU64 2).encodedLen = 1 := by decide
  have absent : (nullable jsonU64 none).encodedLen = 4 := rfl
  rw [pending, first, second, absent, nullable] at size
  omega

theorem orphaned_len (reason : String) :
    (statusJson (.orphaned reason)).encodedLen = 31 + stringLen reason := by
  have keys : stringLen "status" = 8 ∧ stringLen "orphaned" = 10 ∧ stringLen "reason" = 8 := by
    decide
  simp only [statusJson, Json.encodedLen, fieldsLen, List.length_cons, List.length_nil]
  omega

theorem settled_len (decision : ApprovalDecision) (decidedBy : ApprovalActor) :
    (statusJson (.settled decision decidedBy)).encodedLen =
      46 + decision.toJson.encodedLen + decidedBy.toJson.encodedLen := by
  have keys : stringLen "status" = 8 ∧ stringLen "settled" = 9 ∧ stringLen "decision" = 10 ∧
      stringLen "decided_by" = 12 := by decide
  simp only [statusJson, Json.encodedLen, fieldsLen, List.length_cons, List.length_nil]
  omega

/-! ## Settlements -/

/-- A settled form of an admitted record passes the record check exactly when its
status does and it fits. -/
theorem Fresh.validateRecord_eq_ok {record : ApprovalRecord} (fresh : Fresh record)
    (status : ApprovalRecordStatus) (terminal : status ≠ .pending) (now : UInt64) :
    validateRecord { record with status, revision := 2, settledAtMs := some now } = .ok () ↔
      validateStatus { record with status, revision := 2, settledAtMs := some now } = .ok () ∧
        (recordJson { record with status, revision := 2, settledAtMs := some now }).encodedLen ≤
          maxApprovalRecordBytes := by
  constructor
  · intro valid
    iterate 4 replace valid := rest_ok valid
    obtain ⟨settles, valid⟩ := seq_eq_ok.1 valid
    obtain ⟨size, bounded, _⟩ := bind_eq_ok.1 valid
    have fits := (boundedSerializedSize_eq_ok.1 (mapError_eq_ok.1 bounded)).1
    rw [maximumBytes, if_neg terminal] at fits
    exact ⟨settles, fits⟩
  · rintro ⟨settles, fits⟩
    have bounded := boundedSerializedSize_eq_ok.2 ⟨fits, rfl⟩
    refine seq_eq_ok.2 ⟨?_, seq_eq_ok.2 ⟨fresh.request, seq_eq_ok.2 ⟨mapError_eq_ok.2 fresh.tenant,
      seq_eq_ok.2 ⟨?_, seq_eq_ok.2 ⟨settles, ?_⟩⟩⟩⟩⟩
    · rw [rejectIf_eq_ok, fresh.schema]
      rfl
    · rw [rejectIf_eq_ok, Bool.and_eq_false_iff, beq_eq_false_iff_ne]
      exact .inl fresh.requester
    · rw [maximumBytes, if_neg terminal]
      exact bind_eq_ok.2 ⟨_, mapError_eq_ok.2 bounded, rfl⟩

theorem nextRevision_one : nextRevision 1 = .ok 2 := rfl

variable {record done : ApprovalRecord} {decision : ApprovalDecision} {decidedBy : ApprovalActor}

/-- **An orphaning succeeds exactly when it fits.** -/
theorem Fresh.orphanRecord_eq_ok (fresh : Fresh record) {reason : String}
    (valid : validateReason "orphan" reason = .ok ()) (now : UInt64) :
    orphanRecord record reason now = .ok done ↔
      (recordJson record).encodedLen + orphanBytes reason now ≤ maxApprovalRecordBytes ∧
        done = { record with status := .orphaned reason, revision := 2, settledAtMs := some now } := by
  have size := fresh.len (.orphaned reason) now
  rw [orphaned_len] at size
  have open' : ¬ record.status ≠ .pending := fun other => other fresh.status
  rw [orphanRecord, if_neg open', bind_eq_ok, fresh.revision]
  simp only [nextRevision_one, Except.ok.injEq, exists_eq_left']
  rw [seq_eq_ok, ok_eq_ok, fresh.validateRecord_eq_ok (.orphaned reason) nofun]
  have settles : validateStatus { record with
      status := .orphaned reason, revision := 2, settledAtMs := some now } = .ok () := valid
  rw [and_iff_right settles, orphanBytes]
  refine and_congr ?_ Iff.rfl
  omega

/-- **A decision succeeds exactly when it fits.** -/
theorem Fresh.settleRecord_eq_ok (fresh : Fresh record) (valid : validateDecision decision = .ok ())
    (current : validateCurrentActor "approval settler" decidedBy = .ok ())
    (separate : record.request.requestedBy ≠ decidedBy) (now : UInt64) :
    settleRecord record record.revision decision decidedBy now = .ok done ↔
      (recordJson record).encodedLen + settlementBytes decision decidedBy now ≤
          maxApprovalRecordBytes ∧
        done = { record with
          status := .settled decision decidedBy, revision := 2, settledAtMs := some now } := by
  have size := fresh.len (.settled decision decidedBy) now
  rw [settled_len] at size
  have settles : validateStatus { record with
      status := .settled decision decidedBy, revision := 2, settledAtMs := some now } = .ok () := by
    refine seq_eq_ok.2 ⟨valid, seq_eq_ok.2 ⟨shape_of_current current, ?_⟩⟩
    rw [rejectIf_eq_ok, Bool.and_eq_false_iff, beq_eq_false_iff_ne]
    exact .inl separate
  have admitted : rejectIf (record.revision != record.revision)
      (HarnessError.approvalConflict record.request.id record.revision record.revision) = .ok () := by
    rw [rejectIf_bne]
  have pending : rejectIf (record.status != .pending) (HarnessError.approval
      s!"approval {record.request.id} is already terminal") = .ok () := by
    rw [rejectIf_bne, fresh.status]
  have other : rejectIf (record.request.requestedBy == decidedBy) (HarnessError.approval
      s!"approval {record.request.id} requester cannot settle the same request") = .ok () := by
    rw [rejectIf_eq_ok, beq_eq_false_iff_ne]
    exact separate
  rw [settleRecord, seq_eq_ok, and_iff_right admitted, seq_eq_ok, and_iff_right pending, seq_eq_ok,
    and_iff_right current, seq_eq_ok, and_iff_right other, bind_eq_ok, fresh.revision]
  simp only [nextRevision_one, Except.ok.injEq, exists_eq_left']
  rw [seq_eq_ok, ok_eq_ok, fresh.validateRecord_eq_ok (.settled decision decidedBy) nofun,
    and_iff_right settles, settlementBytes]
  refine and_congr ?_ Iff.rfl
  omega

/-- A record that was settled or orphaned passes the record check. -/
theorem validateRecord_of_orphanRecord {reason : String} {now : UInt64}
    (pending : record.status = .pending) (orphaned : orphanRecord record reason now = .ok done) :
    validateRecord done = .ok () := by
  rw [orphanRecord, if_neg fun other => other pending] at orphaned
  obtain ⟨revision, _, orphaned⟩ := bind_eq_ok.1 orphaned
  obtain ⟨valid, orphaned⟩ := seq_eq_ok.1 orphaned
  cases orphaned
  exact valid

theorem validateRecord_of_settleRecord {expected now : UInt64}
    (settled : settleRecord record expected decision decidedBy now = .ok done) :
    validateRecord done = .ok () := by
  iterate 4 replace settled := rest_ok settled
  obtain ⟨revision, _, settled⟩ := bind_eq_ok.1 settled
  obtain ⟨valid, settled⟩ := seq_eq_ok.1 settled
  cases settled
  exact valid

/-! ## Which approvals can be decided -/

/-- **An admitted approval can be decided exactly when its decision fits.**  The
encodings of the reason, or of the decision and its actor, and of the time are added
to the size of the pending record. -/
theorem decided_iff_fits {request : ApprovalRequest} {authority : AuthorityContext}
    {submittedAtMs : UInt64} {record : ApprovalRecord}
    (admitted : admitRecord request authority submittedAtMs = .ok record) (now : UInt64) :
    (∀ reason, validateReason "orphan" reason = .ok () →
      ((∃ done, orphanRecord record reason now = .ok done ∧ validateRecord done = .ok ()) ↔
        (recordJson record).encodedLen + orphanBytes reason now ≤ maxApprovalRecordBytes)) ∧
    ∀ decision decidedBy, validateDecision decision = .ok () →
      validateCurrentActor "approval settler" decidedBy = .ok () →
      record.request.requestedBy ≠ decidedBy →
      ((∃ done, settleRecord record record.revision decision decidedBy now = .ok done ∧
          validateRecord done = .ok ()) ↔
        (recordJson record).encodedLen + settlementBytes decision decidedBy now ≤
          maxApprovalRecordBytes) := by
  have fresh := admitRecord_fresh admitted
  constructor
  · intro reason valid
    constructor
    · rintro ⟨done, orphaned, _⟩
      exact ((fresh.orphanRecord_eq_ok valid now).1 orphaned).1
    · intro fits
      have orphaned := (fresh.orphanRecord_eq_ok valid now).2 ⟨fits, rfl⟩
      exact ⟨_, orphaned, validateRecord_of_orphanRecord fresh.status orphaned⟩
  · intro decision decidedBy valid current separate
    constructor
    · rintro ⟨done, settled, _⟩
      exact ((fresh.settleRecord_eq_ok valid current separate now).1 settled).1
    · intro fits
      have settled := (fresh.settleRecord_eq_ok valid current separate now).2 ⟨fits, rfl⟩
      exact ⟨_, settled, validateRecord_of_settleRecord settled⟩

/-! ## An approval near the admission bound -/

section Sample

/-- A request whose Tool input is padded. -/
def paddedRequest (padding : String) : ApprovalRequest :=
  ⟨"approval-1", .localProcess,
    ⟨"thread-1", "turn-1", "call-1", ⟨"deploy", "deploys an artifact", .obj []⟩, .builtIn,
      .str padding⟩,
    "deployment changes external state", .high⟩

/-- The sizes without padding. -/
theorem unpadded_len : (paddedRequest "").toJson.encodedLen = 322 ∧
    (recordJson (newRecord (paddedRequest "") none 1000)).encodedLen = 440 := by
  decide +kernel

example : (orphanRecord (newRecord (paddedRequest "") none 1000) "the Turn was abandoned"
    2000).toOption.isSome = true := by
  decide +kernel

theorem paddedRequest_len (padding : String) :
    (paddedRequest padding).toJson.encodedLen = 320 + stringLen padding := by
  have base := unpadded_len.1
  have empty : stringLen "" = 2 := by decide
  have moved : (paddedRequest padding).toJson.encodedLen + stringLen "" =
      (paddedRequest "").toJson.encodedLen + stringLen padding := by
    simp only [paddedRequest, ApprovalRequest.toJson, ToolAuthorization.toJson, Json.encodedLen,
      fieldsLen, List.length_cons, List.length_nil]
    ring
  omega

theorem paddedRecord_len (padding : String) :
    (recordJson (newRecord (paddedRequest padding) none 1000)).encodedLen =
      118 + (paddedRequest padding).toJson.encodedLen := by
  have base := unpadded_len.2
  have empty := unpadded_len.1
  have moved : (recordJson (newRecord (paddedRequest padding) none 1000)).encodedLen +
      (paddedRequest "").toJson.encodedLen =
      (recordJson (newRecord (paddedRequest "") none 1000)).encodedLen +
        (paddedRequest padding).toJson.encodedLen := by
    simp only [recordJson, newRecord, skipNone, Json.encodedLen, fieldsLen, List.length_cons,
      List.length_nil, List.append_nil, List.cons_append, List.nil_append]
    ring
  omega

/-- Any padding that stays below the admission bound is admitted. -/
theorem paddedRequest_admitted {padding : String} (short : stringLen padding ≤ 519754) :
    admitRecord (paddedRequest padding) .localProcess 1000 =
      .ok (newRecord (paddedRequest padding) none 1000) := by
  have size := paddedRequest_len padding
  have total := paddedRecord_len padding
  have pendingBound : maximumBytes .pending = 520192 := rfl
  have terminalBound : maxApprovalRecordBytes = 525312 := rfl
  have requested := boundedSerializedSize_eq_ok.2
    ⟨(by omega : (paddedRequest padding).toJson.encodedLen ≤ maxApprovalRecordBytes), rfl⟩
  have recorded := boundedSerializedSize_eq_ok.2
    ⟨(by omega : (recordJson (newRecord (paddedRequest padding) none 1000)).encodedLen ≤
      maximumBytes .pending), rfl⟩
  have identities : ∀ entry ∈ [("approval", "approval-1"), ("thread", "thread-1"),
      ("turn", "turn-1"), ("tool call", "call-1")],
      validateIdentity entry.1 entry.2 = .ok () := by decide +kernel
  simp only [List.mem_cons, List.not_mem_nil, or_false, forall_eq_or_imp, forall_eq] at identities
  obtain ⟨approval, thread, turn, call⟩ := identities
  have name : validateCapabilityName "approval Tool" "deploy" = .ok () := by decide +kernel
  have reason : validateReason "Policy" "deployment changes external state" = .ok () := by
    decide +kernel
  have described : isBlank "deploys an artifact" = false := by decide +kernel
  have authorized : validateAuthority .localProcess = .ok () := by decide +kernel
  have valid : validateRequest (paddedRequest padding) = .ok () := by
    refine seq_eq_ok.2 ⟨approval, seq_eq_ok.2 ⟨rfl, seq_eq_ok.2 ⟨thread, seq_eq_ok.2 ⟨turn,
      seq_eq_ok.2 ⟨call, seq_eq_ok.2 ⟨name, seq_eq_ok.2 ⟨reason, seq_eq_ok.2 ⟨?_,
      seq_eq_ok.2 ⟨rfl, seq_eq_ok.2 ⟨rfl, ?_⟩⟩⟩⟩⟩⟩⟩⟩⟩⟩
    · exact rejectIf_eq_ok.2 described
    · exact bind_eq_ok.2 ⟨_, mapError_eq_ok.2 requested, rfl⟩
  have record : validateRecord (newRecord (paddedRequest padding) none 1000) = .ok () :=
    seq_eq_ok.2 ⟨rfl, seq_eq_ok.2 ⟨valid, seq_eq_ok.2 ⟨rfl, seq_eq_ok.2 ⟨rfl,
      seq_eq_ok.2 ⟨rfl, bind_eq_ok.2 ⟨_, mapError_eq_ok.2 recorded, rfl⟩⟩⟩⟩⟩⟩
  refine seq_eq_ok.2 ⟨seq_eq_ok.2 ⟨valid, rfl⟩, seq_eq_ok.2 ⟨seq_eq_ok.2 ⟨authorized, rfl⟩, ?_⟩⟩
  exact seq_eq_ok.2 ⟨record, rfl⟩

/-- A reason of the admitted length, of quotes only. -/
def quotes : String := repeated maxApprovalReasonBytes '"'

theorem quotes_valid (kind : String) : validateReason kind quotes = .ok () := by
  have single : String.utf8EncodeChar '"' = [34] := by decide
  have size := repeated_size single maxApprovalReasonBytes
  have visible := repeated_not_blank (show isWhitespace '"' = false by decide)
    (show 0 < maxApprovalReasonBytes by decide)
  have plain := repeated_plain (show isControl '"' = false by decide) maxApprovalReasonBytes
  rw [validateReason, rejectIf_eq_ok, Bool.or_eq_false_iff, Bool.or_eq_false_iff,
    decide_eq_false_iff_not]
  exact ⟨⟨visible, by rw [quotes, size]; omega⟩, plain⟩

theorem quotes_len : stringLen quotes = 8194 :=
  repeated_len (show String.utf8EncodeChar '"' = [34] by decide) maxApprovalReasonBytes

/-- A request close to the admission bound, and the record it is admitted as. -/
def largeRequest : ApprovalRequest := paddedRequest (repeated 519000 'x')

def largeRecord : ApprovalRecord := newRecord largeRequest none 1000

theorem largeRecord_admitted : admitRecord largeRequest .localProcess 1000 = .ok largeRecord := by
  have size := repeated_len (show String.utf8EncodeChar 'x' = [120] by decide) 519000
  exact paddedRequest_admitted (by rw [size]; decide)

theorem largeRecord_len : (recordJson largeRecord).encodedLen = 519440 := by
  have size := repeated_len (show String.utf8EncodeChar 'x' = [120] by decide) 519000
  rw [largeRecord, largeRequest, paddedRecord_len, paddedRequest_len, size]
  rfl

def approver : ApprovalActor := .authenticated "corp" "operator-1"

/-- Near the admission bound a reason that doubles is refused. -/
theorem Fresh.refused {record : ApprovalRecord} (fresh : Fresh record) {reason : String}
    (large : 517112 ≤ (recordJson record).encodedLen) (long : 8194 ≤ stringLen reason)
    (valid : ∀ kind, validateReason kind reason = .ok ()) (now : UInt64) :
    (¬ ∃ done, orphanRecord record reason now = .ok done) ∧
      ∀ decidedBy, validateCurrentActor "approval settler" decidedBy = .ok () →
        record.request.requestedBy ≠ decidedBy →
        ¬ ∃ done, settleRecord record record.revision (.deny reason) decidedBy now = .ok done := by
  have bound : maxApprovalRecordBytes = 525312 := rfl
  constructor
  · rintro ⟨done, orphaned⟩
    have fits := ((fresh.orphanRecord_eq_ok (valid "orphan") now).1 orphaned).1
    rw [orphanBytes] at fits
    omega
  · rintro decidedBy current separate ⟨done, settled⟩
    have denial : validateDecision (.deny reason) = .ok () := valid "denial"
    have fits := ((fresh.settleRecord_eq_ok denial current separate now).1 settled).1
    simp only [settlementBytes, ApprovalDecision.toJson, Json.encodedLen, fieldsLen] at fits
    omega

/-- **An admitted approval that an admissible denial or orphaning cannot settle.** -/
theorem undecidable_approval :
    admitRecord largeRequest .localProcess 1000 = .ok largeRecord ∧
      validateReason "orphan" quotes = .ok () ∧
      (¬ ∃ done, orphanRecord largeRecord quotes 2000 = .ok done) ∧
      validateDecision (.deny quotes) = .ok () ∧
      validateCurrentActor "approval settler" approver = .ok () ∧
      largeRecord.request.requestedBy ≠ approver ∧
      ¬ ∃ done, settleRecord largeRecord largeRecord.revision (.deny quotes) approver 2000 =
        .ok done := by
  have large : 517112 ≤ (recordJson largeRecord).encodedLen := by
    rw [largeRecord_len]
    decide
  obtain ⟨orphan, settle⟩ := (admitRecord_fresh largeRecord_admitted).refused large
    quotes_len.ge quotes_valid 2000
  have current : validateCurrentActor "approval settler" approver = .ok () := by decide +kernel
  have separate : largeRecord.request.requestedBy ≠ approver := nofun
  exact ⟨largeRecord_admitted, quotes_valid "orphan", orphan, quotes_valid "denial", current,
    separate, settle approver current separate⟩

/-- A plain reason settles even that record. -/
theorem decided_iff_fits_large : ∃ done,
    orphanRecord largeRecord "the Turn was abandoned" 2000 = .ok done ∧
      validateRecord done = .ok () := by
  obtain ⟨orphans, _⟩ := decided_iff_fits largeRecord_admitted 2000
  refine (orphans _ (by decide +kernel)).2 ?_
  rw [largeRecord_len]
  decide +kernel

end Sample

end YHarness.Approval

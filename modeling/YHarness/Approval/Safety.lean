/-
# YHarness.Approval.Safety -- any calls by any actors on one inbox

Calls of any tenants and actors follow one another on one inbox.  A record leaves
`pending` at most once and its terminal form stays (`Later.kept`); a decision is taken
at the current revision and not by the requester; and a tenant sees and changes its
own records only (`call_alike`, `call_own`): what others hold shows nowhere but in the
refusal of an identity that is taken.
-/
import YHarness.Approval.Settlement

namespace YHarness.Approval

open YHarness.Lib YHarness.Kernel
open YHarness.Runtime (ApprovalRecord ApprovalRecordStatus)

set_option autoImplicit false

/-! ## Calls -/

inductive ApprovalCall where
  | submit (request : ApprovalRequest) (now : UInt64)
  | get (approvalId : ApprovalId)
  | pending (limit : Nat)
  | settle (approvalId : ApprovalId) (expectedRevision : UInt64) (decision : ApprovalDecision)
      (now : UInt64)
  | orphan (threadId : ThreadId) (turnId : TurnId) (reason : String) (now : ApprovalId → UInt64)

inductive ApprovalReply where
  | record (record : ApprovalRecord)
  | found (record : Option ApprovalRecord)
  | page (records : List ApprovalRecord)
  | changed (count : Nat)

/-- The records a reply hands out. -/
def ApprovalReply.records : ApprovalReply → List ApprovalRecord
  | .record written => [written]
  | .found read => read.toList
  | .page records => records
  | .changed _ => []

namespace ApprovalInbox

/-- The reply of a call that writes a record, and the inbox it leaves. -/
def replyOf (inbox : ApprovalInbox) :
    Except HarnessError (ApprovalRecord × ApprovalInbox) →
      Except HarnessError ApprovalReply × ApprovalInbox
  | .ok (record, next) => (.ok (.record record), next)
  | .error error => (.error error, inbox)

/-- The reply of a call and the inbox it leaves. -/
def call (inbox : ApprovalInbox) (request : ApprovalCall) (authority : AuthorityContext) :
    Except HarnessError ApprovalReply × ApprovalInbox :=
  match request with
  | .submit request now => inbox.replyOf (inbox.submitAs request authority now)
  | .get approvalId => ((inbox.getAs approvalId authority).map .found, inbox)
  | .pending limit => ((inbox.pendingAs limit authority).map .page, inbox)
  | .settle approvalId expectedRevision decision now =>
    inbox.replyOf (inbox.settleAs approvalId expectedRevision decision authority now)
  | .orphan threadId turnId reason now =>
    let (changed, next) := inbox.orphanTurnAs threadId turnId reason authority now
    (changed.map .changed, next)

/-- The inboxes that calls lead to. -/
inductive Later (first : ApprovalInbox) : ApprovalInbox → Prop
  | refl : Later first first
  | call {inbox : ApprovalInbox} (before : Later first inbox) (request : ApprovalCall)
      (authority : AuthorityContext) : Later first (inbox.call request authority).2

/-- The inboxes that calls lead to from an empty one of either kind. -/
def Reachable (inbox : ApprovalInbox) : Prop :=
  Later (memory ∅) inbox ∨ Later (sqlite ∅) inbox

/-! ## One call -/

/-- What one call under a tenant does: it creates a pending record or settles pending
ones, of that tenant. -/
def Moves (tenantId : Option String) (before after : ApprovalId → Option ApprovalRecord) : Prop :=
  ∀ approvalId, after approvalId = before approvalId ∨
    (before approvalId = none ∧ ∃ record, after approvalId = some record ∧
      record.tenantId = tenantId ∧ record.status = .pending) ∨
    ∃ record settled, before approvalId = some record ∧ after approvalId = some settled ∧
      record.tenantId = tenantId ∧ Settles record settled

theorem Moves.refl (tenantId : Option String) (held : ApprovalId → Option ApprovalRecord) :
    Moves tenantId held held :=
  fun _ => .inl rfl

variable {inbox : ApprovalInbox}

theorem call_moves (sound : inbox.Sound) (request : ApprovalCall) (authority : AuthorityContext) :
    (inbox.call request authority).2.Sound ∧
      Moves authority.tenantId inbox.held (inbox.call request authority).2.held := by
  unfold call
  cases request with
  | get approvalId => exact ⟨sound, .refl _ _⟩
  | pending limit => exact ⟨sound, .refl _ _⟩
  | submit request now =>
    dsimp only
    cases submitted : inbox.submitAs request authority now with
    | error error => exact ⟨sound, .refl _ _⟩
    | ok result =>
      obtain ⟨record, next⟩ := result
      obtain ⟨sound', _, owner, ⟨_, rfl⟩ | ⟨free, pending, written⟩⟩ :=
        submitAs_spec sound submitted
      · exact ⟨sound, .refl _ _⟩
      · refine ⟨sound', fun approvalId => ?_⟩
        simp only [replyOf]
        rw [written]
        by_cases same : approvalId = request.id
        · subst same
          exact .inr (.inl ⟨free, record, Function.update_self .., owner, pending⟩)
        · exact .inl (Function.update_of_ne same ..)
  | settle approvalId expectedRevision decision now =>
    dsimp only
    cases settled : inbox.settleAs approvalId expectedRevision decision authority now with
    | error error => exact ⟨sound, .refl _ _⟩
    | ok result =>
      obtain ⟨record, next⟩ := result
      obtain ⟨sound', written, before, found, owner, _, _, _, settles⟩ :=
        settleAs_spec sound settled
      refine ⟨sound', fun other => ?_⟩
      simp only [replyOf]
      rw [written]
      rcases Orphans.update found owner settles other with same | moved
      · exact .inl same
      · exact .inr (.inr moved)
  | orphan threadId turnId reason now =>
    obtain ⟨sound', orphans, _⟩ := orphanTurnAs_spec sound threadId turnId reason now
    refine ⟨sound', fun approvalId => ?_⟩
    rcases orphans approvalId with same | moved
    · exact .inl same
    · exact .inr (.inr moved)

/-! ## Runs -/

variable {authority : AuthorityContext} {left right : ApprovalInbox} {now : ApprovalId → UInt64}
  {first last : ApprovalInbox} {tenantId : Option String}

theorem Later.sound (later : Later first last) (sound : first.Sound) : last.Sound := by
  induction later with
  | refl => exact sound
  | call _ request authority ih => exact (call_moves ih request authority).1

theorem Reachable.sound (reached : Reachable inbox) : inbox.Sound := by
  rcases reached with later | later
  · exact later.sound memory_empty_sound
  · exact later.sound sqlite_empty_sound

/-- **A record is settled at most once**, and stays as it was settled. -/
theorem Later.kept (later : Later first last) (sound : first.Sound) {approvalId : ApprovalId}
    {record : ApprovalRecord} (found : first.held approvalId = some record) :
    ∃ kept, last.held approvalId = some kept ∧ (kept = record ∨ Settles record kept) := by
  induction later with
  | refl => exact ⟨record, found, .inl rfl⟩
  | call before request authority ih =>
    obtain ⟨kept, here, stage⟩ := ih
    rcases (call_moves (before.sound sound) request authority).2 approvalId with
      same | ⟨free, _⟩ | ⟨current, settled, current', after, _, settles⟩
    · exact ⟨kept, same.trans here, stage⟩
    · rw [here] at free
      cases free
    · rw [here] at current'
      cases current'
      refine ⟨settled, after, .inr ?_⟩
      rcases stage with rfl | earlier
      · exact settles
      · exact absurd settles.pending earlier.terminal

/-! ## Tenants -/

theorem mem_selectPending {limit : Nat} {selected : List ApprovalRecord}
    {added record : ApprovalRecord} (member : record ∈ selectPending limit selected added) :
    record = added ∨ record ∈ selected := by
  unfold selectPending at member
  dsimp only at member
  split at member
  · have inside := List.mem_of_mem_take member
    rwa [List.mem_insertIdx (List.takeWhile_sublist _).length_le] at inside
  · exact .inr member

/-- A page holds selected records only. -/
theorem mem_foldl_selectPending {limit : Nat} {records selected : List ApprovalRecord}
    {record : ApprovalRecord} (member : record ∈ records.foldl (selectPending limit) selected) :
    record ∈ records ∨ record ∈ selected := by
  induction records generalizing selected with
  | nil => exact .inr member
  | cons added records ih =>
    rcases ih member with later | here
    · exact .inl (List.mem_cons_of_mem _ later)
    · rcases mem_selectPending here with rfl | before
      · exact .inl List.mem_cons_self
      · exact .inr before

/-- **A reply hands out records of the caller's tenant.** -/
theorem call_own (sound : inbox.Sound) {request : ApprovalCall} {reply : ApprovalReply}
    (replied : (inbox.call request authority).1 = .ok reply) :
    ∀ record ∈ reply.records, record.tenantId = authority.tenantId := by
  intro record member
  cases request with
  | submit request now =>
    unfold call at replied
    dsimp only at replied
    cases submitted : inbox.submitAs request authority now with
    | error error => rw [submitted] at replied; cases replied
    | ok result =>
      rw [submitted] at replied
      cases replied
      cases List.mem_singleton.1 member
      exact (submitAs_spec sound submitted).2.2.1
  | settle approvalId expectedRevision decision now =>
    unfold call at replied
    dsimp only at replied
    cases settled : inbox.settleAs approvalId expectedRevision decision authority now with
    | error error => rw [settled] at replied; cases replied
    | ok result =>
      rw [settled] at replied
      cases replied
      cases List.mem_singleton.1 member
      obtain ⟨_, _, before, _, owner, _, _, _, settles⟩ := settleAs_spec sound settled
      rw [settles.same]
      exact owner
  | orphan threadId turnId reason now =>
    unfold call at replied
    dsimp only at replied
    cases counted : (inbox.orphanTurnAs threadId turnId reason authority now).1 with
    | error error => rw [counted] at replied; cases replied
    | ok count => rw [counted] at replied; cases replied; cases member
  | get approvalId =>
    unfold call at replied
    dsimp only at replied
    cases found : inbox.getAs approvalId authority with
    | error error => rw [found] at replied; cases replied
    | ok result =>
      rw [found] at replied
      cases replied
      obtain rfl := Option.mem_toList.1 member
      replace found := rest_ok (rest_ok found)
      cases inbox with
      | memory records => exact (ownRecord_eq_some.1 (Except.ok.inj found)).2
      | sqlite rows =>
        dsimp only at found
        cases selected : selectRow rows approvalId authority.tenantId with
        | none => rw [selected] at found; cases found
        | some row =>
          rw [selected] at found
          obtain ⟨read, decoded, found⟩ := bind_eq_ok.1 found
          cases found
          rw [read_eq decoded]
          exact (selectRow_eq_some sound selected).2.1
  | pending limit =>
    unfold call at replied
    dsimp only at replied
    cases paged : inbox.pendingAs limit authority with
    | error error => rw [paged] at replied; cases replied
    | ok page =>
      rw [paged] at replied
      cases replied
      replace paged := rest_ok (rest_ok paged)
      cases inbox with
      | memory records =>
        cases paged
        rcases mem_foldl_selectPending member with chosen | never
        · have own := (List.mem_filter.1 chosen).2
          rw [Bool.and_eq_true, beq_iff_eq] at own
          exact own.1
        · cases never
      | sqlite rows =>
        obtain ⟨⟨approvalId, row⟩, chosen, read⟩ := forall₂_exists_left (mapM_eq_ok.1 paged) member
        obtain ⟨decoded, same, read⟩ := bind_eq_ok.1 read
        replace read := rest_ok read
        cases read
        have listed := List.mem_mergeSort.1 (List.mem_of_mem_take chosen)
        obtain ⟨known, own⟩ := List.mem_filter.1 listed
        rw [Bool.and_eq_true, beq_iff_eq] at own
        have columns := sound.columns rows rfl approvalId row (OrdMap.mem_toList.1 known)
        rw [read_eq same, ← own.1, columns]
        rfl

/-! ## What others hold shows nowhere -/

/-- Two inboxes of one kind with the same records of a tenant, in which the same
identities are taken. -/
def SameFor (tenantId : Option String) : ApprovalInbox → ApprovalInbox → Prop
  | memory left, memory right =>
    (∀ approvalId, ownRecord left approvalId tenantId = ownRecord right approvalId tenantId) ∧
      ∀ approvalId : ApprovalId, left.contains approvalId = right.contains approvalId
  | sqlite left, sqlite right =>
    (∀ approvalId, selectRow left approvalId tenantId = selectRow right approvalId tenantId) ∧
      ∀ approvalId : ApprovalId, left.contains approvalId = right.contains approvalId
  | _, _ => False

/-- The replies are the same. -/
def RepliesAlike {α β : Type} (left right : α × β) : Prop :=
  left.1 = right.1

theorem replyOf_alike {x y : Except HarnessError (ApprovalRecord × ApprovalInbox)}
    (alike : Alike RepliesAlike x y) :
    (left.replyOf x).1 = (right.replyOf y).1 := by
  cases alike with
  | ok same => exact congrArg (Except.ok ∘ ApprovalReply.record) same
  | error error => rfl

/-- An identity that another tenant holds is refused, whatever its record is. -/
theorem matchingRequest_other {existing : ApprovalRecord} {request : ApprovalRequest}
    (other : existing.tenantId ≠ tenantId) :
    matchingRequest existing request tenantId =
      .error (.approval s!"approval {request.id} was reused with different content") :=
  if_neg fun same => other same.2

theorem submitAs_alike (same : left.SameFor authority.tenantId right) (request : ApprovalRequest)
    (now : UInt64) :
    Alike RepliesAlike (left.submitAs request authority now)
      (right.submitAs request authority now) := by
  refine .shared _ fun _ _ => .shared _ fun _ _ => ?_
  cases left with
  | memory left =>
    cases right with
    | sqlite _ => exact same.elim
    | memory right =>
      obtain ⟨own, taken⟩ := same
      have here := own request.id
      have there := taken request.id
      rw [Std.ExtTreeMap.contains_eq_isSome_getElem?, Std.ExtTreeMap.contains_eq_isSome_getElem?]
        at there
      rw [ownRecord, ownRecord] at here
      dsimp only
      cases foundLeft : left[request.id]? with
      | none =>
        cases foundRight : right[request.id]? with
        | some existing => rw [foundLeft, foundRight] at there; cases there
        | none =>
          have counted := OrdMap.filter_values_congr own
            (p := ofTurn request.authorization.threadId request.authorization.turnId
              authority.tenantId) fun record chosen => by
                simp only [ofTurn, Bool.and_eq_true] at chosen
                exact chosen.1.1
          dsimp only
          rw [counted]
          exact .shared _ fun _ _ => .shared _ fun _ _ => .ok rfl
      | some existing =>
        cases foundRight : right[request.id]? with
        | none => rw [foundLeft, foundRight] at there; cases there
        | some other =>
          rw [foundLeft, foundRight, Option.filter_some, Option.filter_some] at here
          dsimp only
          by_cases mine : existing.tenantId = authority.tenantId
          · rw [if_pos (beq_iff_eq.2 mine)] at here
            split at here
            · cases here
              exact .shared _ fun _ _ => .ok rfl
            · cases here
          · rw [if_neg fun owner => mine (beq_iff_eq.1 owner)] at here
            split at here
            · cases here
            · rename_i foreign
              rw [matchingRequest_other mine,
                matchingRequest_other fun owner => foreign (beq_iff_eq.2 owner)]
              exact .error _
  | sqlite left =>
    cases right with
    | memory _ => exact same.elim
    | sqlite right =>
      obtain ⟨own, taken⟩ := same
      dsimp only
      rw [own request.id]
      cases selectRow right request.id authority.tenantId with
      | some row => exact .shared _ fun _ _ => .shared _ fun _ _ => .ok rfl
      | none =>
        have counted := OrdMap.filter_values_congr own
          (p := ApprovalRow.ofTurn request.authorization.threadId
            request.authorization.turnId authority.tenantId) fun row chosen => by
              simp only [ApprovalRow.ofTurn, Bool.and_eq_true] at chosen
              exact chosen.1.1
        dsimp only
        rw [counted, taken request.id]
        exact .shared _ fun _ _ => .shared _ fun _ _ => .shared _ fun _ _ =>
          .shared _ fun _ _ => .shared _ fun _ _ => .ok rfl

theorem settleAs_alike (same : left.SameFor authority.tenantId right) (approvalId : ApprovalId)
    (expectedRevision : UInt64) (decision : ApprovalDecision) (now : UInt64) :
    Alike RepliesAlike (left.settleAs approvalId expectedRevision decision authority now)
      (right.settleAs approvalId expectedRevision decision authority now) := by
  refine .shared _ fun _ _ => .shared _ fun _ _ => .shared _ fun _ _ => ?_
  cases left with
  | memory left =>
    cases right with
    | sqlite _ => exact same.elim
    | memory right =>
      dsimp only
      rw [same.1 approvalId]
      exact .shared _ fun _ _ => .shared _ fun _ _ => .ok rfl
  | sqlite left =>
    cases right with
    | memory _ => exact same.elim
    | sqlite right =>
      dsimp only
      rw [same.1 approvalId]
      exact .shared _ fun _ _ => .shared _ fun _ _ => .shared _ fun _ _ => .shared _ fun _ _ =>
        .shared _ fun _ _ => .shared _ fun _ _ => .shared _ fun _ _ => .ok rfl

/-- The count of the loop does not depend on the map it writes to. -/
theorem orphanRecords_alike {reason : String} (entries : List (ApprovalId × ApprovalRecord))
    (left right : OrdMap ApprovalId ApprovalRecord) (changed : Nat) :
    (orphanRecords reason now entries left changed).1 =
      (orphanRecords reason now entries right changed).1 := by
  induction entries generalizing left right changed with
  | nil => rfl
  | cons entry rest ih =>
    obtain ⟨approvalId, record⟩ := entry
    unfold orphanRecords
    cases orphanRecord record reason (now approvalId) with
    | error error => rfl
    | ok orphaned => exact ih ..

theorem selectRow_insert (rows : OrdMap ApprovalId ApprovalRow) (key : ApprovalId)
    (row : ApprovalRow) (tenantId : Option String) (approvalId : ApprovalId) :
    selectRow (rows.insert key row) approvalId tenantId =
      if approvalId = key then (some row).filter fun row => row.tenantId == tenantId
      else selectRow rows approvalId tenantId := by
  unfold selectRow
  split
  · rename_i same
    rw [same, OrdMap.get?_insert_self]
  · rename_i other
    rw [OrdMap.get?_insert_of_ne rows row (Ne.symm other)]

theorem orphanRows_alike {reason : String} (approvalIds : List ApprovalId)
    {left right : OrdMap ApprovalId ApprovalRow} (changed : Nat)
    (same : ∀ approvalId, selectRow left approvalId tenantId = selectRow right approvalId tenantId) :
    Alike RepliesAlike (orphanRows reason tenantId now approvalIds left changed)
      (orphanRows reason tenantId now approvalIds right changed) := by
  induction approvalIds generalizing left right changed with
  | nil => exact .ok rfl
  | cons approvalId rest ih =>
    unfold orphanRows
    rw [same approvalId]
    refine .shared _ fun row _ => .shared _ fun record _ => .shared _ fun orphaned _ =>
      .shared _ fun _ _ => .shared _ fun revision _ => ?_
    rw [same orphaned.request.id]
    cases (selectRow right orphaned.request.id tenantId).filter _ with
    | none => exact ih changed same
    | some stored =>
      refine ih _ fun other => ?_
      rw [selectRow_insert, selectRow_insert, same other]

/-- **A reply does not depend on what other tenants hold**, only on the identities
they have taken. -/
theorem call_alike (request : ApprovalCall) (same : left.SameFor authority.tenantId right) :
    (left.call request authority).1 = (right.call request authority).1 := by
  cases request with
  | submit request now => exact replyOf_alike (submitAs_alike same request now)
  | settle approvalId expectedRevision decision now =>
    exact replyOf_alike (settleAs_alike same approvalId expectedRevision decision now)
  | get approvalId =>
    refine congrArg (Except.map ApprovalReply.found) ?_
    unfold getAs
    cases left with
    | memory left =>
      cases right with
      | sqlite _ => exact same.elim
      | memory right => dsimp only; rw [same.1 approvalId]
    | sqlite left =>
      cases right with
      | memory _ => exact same.elim
      | sqlite right => dsimp only; rw [same.1 approvalId]
  | pending limit =>
    refine congrArg (Except.map ApprovalReply.page) ?_
    unfold pendingAs
    cases left with
    | memory left =>
      cases right with
      | sqlite _ => exact same.elim
      | memory right =>
        have listed := OrdMap.filter_values_congr same.1
          (p := fun record => record.tenantId == authority.tenantId && isPending record)
          fun record chosen => (Bool.and_eq_true _ _ ▸ chosen).1
        dsimp only
        rw [listed]
    | sqlite left =>
      cases right with
      | memory _ => exact same.elim
      | sqlite right =>
        have listed := OrdMap.filter_toList_congr same.1
          (p := fun entry => entry.2.tenantId == authority.tenantId &&
            entry.2.status == "pending")
          fun entry chosen => (Bool.and_eq_true _ _ ▸ chosen).1
        dsimp only
        rw [listed]
  | orphan threadId turnId reason now =>
    refine congrArg (Except.map ApprovalReply.changed) ?_
    dsimp only [orphanTurnAs]
    cases validateOrphan threadId turnId reason authority with
    | error error => rfl
    | ok _ =>
      cases left with
      | memory left =>
        cases right with
        | sqlite _ => exact same.elim
        | memory right =>
          have listed := OrdMap.filter_toList_congr same.1
            (p := fun entry => ofTurn threadId turnId authority.tenantId entry.2 &&
              isPending entry.2) fun entry chosen => by
                simp only [ofTurn, Bool.and_eq_true] at chosen
                exact chosen.1.1.1
          dsimp only
          rw [listed]
          exact orphanRecords_alike ..
      | sqlite left =>
        cases right with
        | memory _ => exact same.elim
        | sqlite right =>
          have listed := OrdMap.filter_toList_congr same.1
            (p := fun entry => ApprovalRow.ofTurn threadId turnId authority.tenantId
              entry.2 && entry.2.status == "pending") fun entry chosen => by
                simp only [ApprovalRow.ofTurn, Bool.and_eq_true] at chosen
                exact chosen.1.1.1
          have alike : Alike RepliesAlike
              (orphanTransaction left threadId turnId reason authority.tenantId now)
              (orphanTransaction right threadId turnId reason authority.tenantId now) := by
            unfold orphanTransaction
            rw [listed]
            exact .shared _ fun _ _ => orphanRows_alike _ 0 same.1
          dsimp only
          revert alike
          generalize orphanTransaction left threadId turnId reason _ now = x
          generalize orphanTransaction right threadId turnId reason _ now = y
          rintro (related | error)
          · exact congrArg Except.ok related
          · rfl

/-! ## Settlement safety -/

/-- **Settlement safety.**  In every run a record stays or is settled, once; a settled
one is never written again; a decision is taken on the pending record of the expected
revision, not by its requester; and a call changes, hands out and depends on records of
its own tenant only. -/
theorem settlement_safe (reached : inbox.Reachable) :
    (∀ last, Later inbox last → ∀ approvalId record, inbox.held approvalId = some record →
      ∃ kept, last.held approvalId = some kept ∧ (kept = record ∨ Settles record kept)) ∧
    (∀ last, Later inbox last → ∀ approvalId record, inbox.held approvalId = some record →
      record.status ≠ .pending → last.held approvalId = some record) ∧
    (∀ approvalId expectedRevision decision authority now settled next,
      inbox.settleAs approvalId expectedRevision decision authority now = .ok (settled, next) →
        ∃ record, inbox.held approvalId = some record ∧ record.revision = expectedRevision ∧
          record.status = .pending ∧ record.request.requestedBy ≠ authority.actor ∧
          settled.status = .settled decision authority.actor ∧
          next.held = Function.update inbox.held approvalId (some settled)) ∧
    ∀ request authority,
      (∀ approvalId record, inbox.held approvalId = some record →
        record.tenantId ≠ authority.tenantId →
          (inbox.call request authority).2.held approvalId = some record) ∧
      (∀ reply, (inbox.call request authority).1 = .ok reply →
        ∀ record ∈ reply.records, record.tenantId = authority.tenantId) ∧
      ∀ other : ApprovalInbox, inbox.SameFor authority.tenantId other →
        (inbox.call request authority).1 = (other.call request authority).1 := by
  have sound := reached.sound
  refine ⟨fun last later approvalId record found => later.kept sound found, ?_, ?_, ?_⟩
  · intro last later approvalId record found terminal
    obtain ⟨kept, here, rfl | settles⟩ := later.kept sound found
    · exact here
    · exact absurd settles.pending terminal
  · intro approvalId expectedRevision decision authority now settled next succeeds
    obtain ⟨_, written, record, found, _, current, separate, status, settles⟩ :=
      settleAs_spec sound succeeds
    exact ⟨record, found, current, settles.pending, separate, status, written⟩
  · intro request authority
    refine ⟨fun approvalId record found foreign => ?_, fun reply replied => call_own sound replied,
      fun other same => call_alike request same⟩
    rcases (call_moves sound request authority).2 approvalId with
      same | ⟨free, _⟩ | ⟨before, _, here, _, owner, _⟩
    · exact same.trans found
    · rw [found] at free
      cases free
    · rw [found] at here
      cases here
      exact absurd owner foreign

section Sample

/-- A request is submitted, approved by somebody else, and its Turn is abandoned. -/
def approvedInbox : ApprovalInbox :=
  ((memory ∅).call (.submit (paddedRequest "artifact") 1000) .localProcess).2.call
    (.settle "approval-1" 1 .approve 2000) ⟨approver, none⟩ |>.2

def abandonedInbox : ApprovalInbox :=
  (approvedInbox.call (.orphan "thread-1" "turn-1" "the Turn was abandoned" fun _ => 3000)
    .localProcess).2

theorem settlement_safe_sample :
    (approvedInbox.held "approval-1").map (·.status) = some (.settled .approve approver) ∧
      abandonedInbox.held "approval-1" = approvedInbox.held "approval-1" := by
  have approved : (approvedInbox.held "approval-1").map (·.status) =
      some (.settled .approve approver) := by decide +kernel
  obtain ⟨record, found, status⟩ := Option.map_eq_some_iff.1 approved
  obtain ⟨_, stays, _⟩ := @settlement_safe approvedInbox (.inl (.call (.call .refl ..) ..))
  refine ⟨approved, ?_⟩
  rw [found]
  exact stays abandonedInbox (.call .refl ..) "approval-1" record found (by rw [status]; nofun)

end Sample

end ApprovalInbox

end YHarness.Approval

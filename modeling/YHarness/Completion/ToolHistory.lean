/-
# YHarness.Completion.ToolHistory -- which Tool histories a receipt accepts

`validate_settled_tools_and_approvals` walks the Items of a Turn once, with a map of calls
and a map of approvals.  Read call by call it is one small machine (`settleCall`): the map
of calls holds the machine of every call, and the map of approvals only says which
approval belongs to which call and that no approval was requested twice (`Reads`).

`settled_iff_histories` says what it accepts: every Tool Item belongs to a call that was
announced once, approvals are requested under distinct identities, and the Items of each
call are one of three histories (`CallHistory`), interleaved in any way.
-/
import YHarness.Completion
import YHarness.Lib.Keyed

namespace YHarness

open YHarness.Lib YHarness.Kernel

set_option autoImplicit false

/-! ## Histories -/

/-- The call a Tool Item belongs to; other Items have none. -/
def toolCallId? (item : Item) : Option String :=
  match item.kind with
  | .toolCall _ _ callId _ _ _ | .policyDecision callId _ _
  | .approvalRequested _ callId _ _ _ _ _ _ | .approvalDecision _ callId _
  | .toolResult callId _ _ _ => some callId
  | _ => none

/-- The call an Item announces. -/
def announcedCall? (item : Item) : Option String :=
  match item.kind with
  | .toolCall _ _ callId _ _ _ => some callId
  | _ => none

/-- The approval an Item requests. -/
def requestedApproval? (item : Item) : Option ApprovalId :=
  match item.kind with
  | .approvalRequested approvalId _ _ _ _ _ _ _ => some approvalId
  | _ => none

/-- The Items of one settled call: allowed and run, asked for, approved and run, or
answered with an error before any decision. -/
inductive CallHistory (callId : String) : List Item → Prop
  | allowed {call decision result : Item} {modelId origin name input batch toolOrigin output
        isError evidence}
      (called : call.kind = .toolCall modelId origin callId name input batch)
      (decided : decision.kind = .policyDecision callId toolOrigin .allow)
      (answered : result.kind = .toolResult callId output isError evidence) :
      CallHistory callId [call, decision, result]
  | approved {call decision request approval result : Item} {modelId origin name input batch
        toolOrigin reason risk approvalId requestedBy requestOrigin digest output isError evidence}
      (called : call.kind = .toolCall modelId origin callId name input batch)
      (decided : decision.kind = .policyDecision callId toolOrigin (.ask reason risk))
      (requested : request.kind = .approvalRequested approvalId callId name reason risk
        requestedBy requestOrigin digest)
      (settled : approval.kind = .approvalDecision approvalId callId .approve)
      (answered : result.kind = .toolResult callId output isError evidence) :
      CallHistory callId [call, decision, request, approval, result]
  | failed {call result : Item} {modelId origin name input batch output evidence}
      (called : call.kind = .toolCall modelId origin callId name input batch)
      (answered : result.kind = .toolResult callId output true evidence) :
      CallHistory callId [call, result]

/-- Every Tool Item belongs to a call that is announced once, every approval is requested
once, and the Items of each call are a settled history. -/
structure SettledHistories (items : List Item) : Prop where
  calls : (items.filterMap announcedCall?).Nodup
  owned : ∀ item ∈ items, ∀ callId, toolCallId? item = some callId →
    callId ∈ items.filterMap announcedCall?
  approvals : (items.filterMap requestedApproval?).Nodup
  history : ∀ callId ∈ items.filterMap announcedCall?,
    CallHistory callId (itemsOf toolCallId? callId items)

/-! ## The machine of one call -/

def recordedPolicy : PolicyDecision → RecordedPolicy
  | .allow => .allow
  | .deny _ => .deny
  | .ask reason risk => .ask reason risk

/-- What an Item makes of the record of its call, a new call having none; `none` when the
Item is refused. -/
def settleCall (record : Option CallSettlement) (item : Item) : Option (Option CallSettlement) :=
  match item.kind, record with
  | .toolCall _ _ _ name _ _, none => some (some ⟨name, none, none, false, none⟩)
  | .policyDecision _ _ decision, some call =>
    if call.policy.isSome || call.resultIsError.isSome then none
    else some (some { call with policy := some (recordedPolicy decision) })
  | .approvalRequested approvalId _ tool reason risk _ _ _, some call =>
    if call.policy != some (.ask reason risk) || call.tool != tool ||
        call.approvalId.isSome || call.resultIsError.isSome then none
    else some (some { call with approvalId := some approvalId })
  | .approvalDecision approvalId _ decision, some call =>
    if call.approvalId != some approvalId || call.approvalApproved ||
        call.resultIsError.isSome || decision.isDeny then none
    else some (some { call with approvalApproved := true })
  | .toolResult _ _ isError _, some call =>
    if call.resultIsError.isSome || !settledBy call isError then none
    else some (some { call with resultIsError := some isError })
  | _, _ => none

attribute [local simp] settleCall

/-- A call that the final pass accepts, or no call at all. -/
def Finished (record : Option CallSettlement) : Prop :=
  ∀ call, record = some call → settledCall call = .ok ()

/-- The machine accepts the rest of a call's Items from this record on. -/
def Accepts (record : Option CallSettlement) (items : List Item) : Prop :=
  ∃ ended, items.foldlM settleCall record = some ended ∧ Finished ended

variable {item : Item} {items : List Item} {call : CallSettlement} {callId : String}
  {origin : Option CapabilityOrigin} {state state' : SettlementState} {batch : Option ToolCallBatch}

theorem settledCall_eq_ok :
    settledCall call = .ok () ↔ ∃ isError, call.resultIsError = some isError ∧
      settledBy call isError = true := by
  simp [settledCall, bind_eq_ok]

theorem accepts_nil {record : Option CallSettlement} : Accepts record [] ↔ Finished record := by
  simp [Accepts]

theorem accepts_cons {record : Option CallSettlement} :
    Accepts record (item :: items) ↔
      ∃ next, settleCall record item = some next ∧ Accepts next items := by
  simp only [Accepts, List.foldlM_cons, Option.bind_eq_bind, Option.bind_eq_some_iff]
  constructor
  · rintro ⟨ended, ⟨next, moved, ran⟩, finished⟩
    exact ⟨next, moved, ended, ran, finished⟩
  · rintro ⟨next, moved, ended, ran, finished⟩
    exact ⟨ended, ⟨next, moved, ran⟩, finished⟩

/-- Nothing follows a result. -/
theorem accepts_answered {isError : Bool} (answered : call.resultIsError = some isError)
    (items : List Item) :
    Accepts (some call) items ↔ items = [] ∧ settledBy call isError = true := by
  cases items with
  | nil => simp [accepts_nil, Finished, settledCall_eq_ok, answered, -Bool.exists_bool]
  | cons item rest =>
    have refused : settleCall (some call) item = none := by
      cases kind : item.kind <;> simp [settleCall, kind, answered]
    simp [accepts_cons, refused, -settleCall]

/-- A call without a result is not finished. -/
theorem not_finished (open' : call.resultIsError = none) :
    ¬ Finished (some call) := by
  intro finished
  have settled := finished call rfl
  rw [settledCall_eq_ok, open'] at settled
  obtain ⟨_, answered, _⟩ := settled
  cases answered

/-- Only a result follows an allowed call. -/
theorem accepts_allowed (tool : String) (items : List Item) :
    Accepts (some ⟨tool, some .allow, none, false, none⟩) items ↔
      ∃ result callId output isError evidence, items = [result] ∧
        result.kind = .toolResult callId output isError evidence := by
  cases items with
  | nil => simp [accepts_nil, not_finished]
  | cons item rest =>
    rw [accepts_cons]
    cases kind : item.kind <;>
      simp [settleCall, kind, settledBy, accepts_answered, -Bool.exists_bool]

/-- Only a result follows an approved call. -/
theorem accepts_approved (tool reason : String) (risk : RiskLevel) (approvalId : ApprovalId)
    (items : List Item) :
    Accepts (some ⟨tool, some (.ask reason risk), some approvalId, true, none⟩) items ↔
      ∃ result callId output isError evidence, items = [result] ∧
        result.kind = .toolResult callId output isError evidence := by
  cases items with
  | nil => simp [accepts_nil, not_finished]
  | cons item rest =>
    rw [accepts_cons]
    cases kind : item.kind <;>
      simp [settleCall, kind, settledBy, accepts_answered, -Bool.exists_bool]

/-- Only its approval follows a requested call. -/
theorem accepts_requested (tool reason : String) (risk : RiskLevel) (approvalId : ApprovalId)
    (items : List Item) :
    Accepts (some ⟨tool, some (.ask reason risk), some approvalId, false, none⟩) items ↔
      ∃ approval result callId callId' output isError evidence, items = [approval, result] ∧
        approval.kind = .approvalDecision approvalId callId .approve ∧
        result.kind = .toolResult callId' output isError evidence := by
  cases items with
  | nil => simp [accepts_nil, not_finished]
  | cons item rest =>
    rw [accepts_cons]
    cases kind : item.kind with
    | approvalDecision approvalId' callId decision =>
      cases decision with
      | approve =>
        simp [settleCall, kind, ApprovalDecision.isDeny, accepts_approved]
        grind
      | deny reason => simp [settleCall, kind, ApprovalDecision.isDeny]
    | _ => simp [settleCall, kind, settledBy]

/-- Only the request of its approval follows an asked call. -/
theorem accepts_asked (tool reason : String) (risk : RiskLevel) (items : List Item) :
    Accepts (some ⟨tool, some (.ask reason risk), none, false, none⟩) items ↔
      ∃ request rest approvalId callId requestedBy toolOrigin digest, items = request :: rest ∧
        request.kind = .approvalRequested approvalId callId tool reason risk requestedBy
          toolOrigin digest ∧
        Accepts (some ⟨tool, some (.ask reason risk), some approvalId, false, none⟩) rest := by
  cases items with
  | nil => simp [accepts_nil, not_finished]
  | cons item rest =>
    rw [accepts_cons]
    cases kind : item.kind <;> simp [settleCall, kind, settledBy]
    grind

/-- Nothing follows a denied call, and it is never finished. -/
theorem not_accepts_denied (tool : String) (items : List Item) :
    ¬ Accepts (some ⟨tool, some .deny, none, false, none⟩) items := by
  cases items with
  | nil => simp [accepts_nil, not_finished]
  | cons item rest =>
    rw [accepts_cons]
    cases kind : item.kind <;> simp [settleCall, kind, settledBy]

theorem settleCall_called {callId tool : String} {modelId : Option String} {input : Json}
    (called : item.kind = .toolCall modelId origin callId tool input batch) :
    settleCall none item = some (some ⟨tool, none, none, false, none⟩) := by
  simp [settleCall, called]

/-- What follows the announcement of a call. -/
theorem accepts_called (tool : String) (items : List Item) :
    Accepts (some ⟨tool, none, none, false, none⟩) items ↔
      ∃ item rest, items = item :: rest ∧
        ((∃ callId origin, item.kind = .policyDecision callId origin .allow ∧
            Accepts (some ⟨tool, some .allow, none, false, none⟩) rest) ∨
          (∃ callId origin reason risk,
            item.kind = .policyDecision callId origin (.ask reason risk) ∧
            Accepts (some ⟨tool, some (.ask reason risk), none, false, none⟩) rest) ∨
          (∃ callId output evidence,
            item.kind = .toolResult callId output true evidence ∧ rest = [])) := by
  cases items with
  | nil => simp [accepts_nil, not_finished]
  | cons item rest =>
    rw [accepts_cons]
    cases kind : item.kind with
    | policyDecision callId origin decision =>
      cases decision <;> simp [settleCall, kind, recordedPolicy, not_accepts_denied]
    | toolResult callId output isError evidence =>
      cases isError <;> simp [settleCall, kind, settledBy, accepts_answered]
    | _ => simp [settleCall, kind]

/-- The Items of a call whose announcement is followed by an accepted rest. -/
theorem history_of_called {callId tool : String} {modelId : Option String} {input : Json}
    {first : Item} {rest : List Item}
    (called : first.kind = .toolCall modelId origin callId tool input batch)
    (owned : ∀ item ∈ rest, toolCallId? item = some callId)
    (later : Accepts (some ⟨tool, none, none, false, none⟩) rest) :
    CallHistory callId (first :: rest) := by
  obtain ⟨second, rest, rfl, allowed | asked | failed⟩ := (accepts_called tool rest).1 later
  · obtain ⟨_, toolOrigin, decided, later⟩ := allowed
    obtain ⟨result, _, _, _, _, rfl, answered⟩ := (accepts_allowed tool rest).1 later
    simp only [List.mem_cons, List.not_mem_nil, or_false, forall_eq_or_imp, forall_eq,
      toolCallId?, decided, answered, Option.some.injEq] at owned
    obtain ⟨rfl, rfl⟩ := owned
    exact .allowed called decided answered
  · obtain ⟨_, toolOrigin, reason, risk, decided, later⟩ := asked
    obtain ⟨request, rest, approvalId, _, requestedBy, _, digest, rfl, requested, later⟩ :=
      (accepts_asked tool reason risk rest).1 later
    obtain ⟨approval, result, _, _, _, _, _, rfl, settled, answered⟩ :=
      (accepts_requested tool reason risk approvalId rest).1 later
    simp only [List.mem_cons, List.not_mem_nil, or_false, forall_eq_or_imp, forall_eq,
      toolCallId?, decided, requested, settled, answered, Option.some.injEq] at owned
    obtain ⟨rfl, rfl, rfl, rfl⟩ := owned
    exact .approved called decided requested settled answered
  · obtain ⟨_, _, _, answered, rfl⟩ := failed
    simp only [List.mem_cons, List.not_mem_nil, or_false, forall_eq,
      toolCallId?, answered, Option.some.injEq] at owned
    subst owned
    exact .failed called answered

/-- **One call.**  From no record at all the machine accepts nothing or a settled
history. -/
theorem accepts_iff_history (owned : ∀ item ∈ items, toolCallId? item = some callId) :
    Accepts none items ↔ items = [] ∨ CallHistory callId items := by
  constructor
  · intro accepted
    cases items with
    | nil => exact .inl rfl
    | cons first rest =>
      right
      obtain ⟨next, moved, later⟩ := accepts_cons.1 accepted
      cases called : first.kind with
      | toolCall modelId origin callId' tool input batch =>
        have own : callId' = callId := by
          simpa [toolCallId?, called] using owned first List.mem_cons_self
        subst own
        simp only [settleCall, called, Option.some.injEq] at moved
        subst moved
        exact history_of_called called (fun item member =>
          owned item (List.mem_cons_of_mem _ member)) later
      | _ => simp [settleCall, called] at moved
  · rintro (rfl | history)
    · exact accepts_nil.2 fun _ none => nomatch none
    · cases history with
      | allowed called decided answered =>
        refine accepts_cons.2 ⟨_, settleCall_called called, (accepts_called _ _).2
          ⟨_, _, rfl, .inl ⟨_, _, decided, (accepts_allowed _ _).2 ?_⟩⟩⟩
        exact ⟨_, _, _, _, _, rfl, answered⟩
      | approved called decided requested settled answered =>
        refine accepts_cons.2 ⟨_, settleCall_called called, (accepts_called _ _).2
          ⟨_, _, rfl, .inr (.inl ⟨_, _, _, _, decided, (accepts_asked _ _ _ _).2
            ⟨_, _, _, _, _, _, _, rfl, requested, (accepts_requested _ _ _ _ _).2 ?_⟩⟩)⟩⟩
        exact ⟨_, _, _, _, _, _, _, rfl, settled, answered⟩
      | failed called answered =>
        exact accepts_cons.2 ⟨_, settleCall_called called, (accepts_called _ _).2
          ⟨_, _, rfl, .inr (.inr ⟨_, _, _, answered, rfl⟩)⟩⟩

/-! ## The two maps as the machines of the calls -/

/-- The records an Item leaves, each call moved by its own machine. -/
abbrev settleRecords : (String → Option CallSettlement) → Item →
    Option (String → Option CallSettlement) :=
  Keyed.step toolCallId? settleCall

/-- The approval a record carries. -/
def approvalOf (record : Option CallSettlement) : Option ApprovalId :=
  record.bind (·.approvalId)

/-- The record of each call. -/
def SettlementState.records (state : SettlementState) : String → Option CallSettlement :=
  fun callId => state.calls[callId]?

/-- The map of approvals lists the approvals the calls carry. -/
def Reads (state : SettlementState) : Prop :=
  ∀ (approvalId : ApprovalId) (callId : String), state.approvals[approvalId]? = some callId ↔
    approvalOf state.calls[callId]? = some approvalId

theorem empty_reads : Reads ⟨∅, ∅⟩ :=
  fun _ _ => by simp [approvalOf]

/-- An approval the Item requests has not been requested before. -/
def FreshApproval (state : SettlementState) (item : Item) : Prop :=
  ∀ approvalId, requestedApproval? item = some approvalId →
    state.approvals[approvalId]? = none

/-- The state after a call's record changed, and an approval was requested or not. -/
def SettlementState.record (state : SettlementState) (callId : String) (call : CallSettlement) :
    Option ApprovalId → SettlementState
  | none => state.setCall callId call
  | some approvalId =>
    { calls := state.calls.insert callId call
      approvals := state.approvals.insert approvalId callId }

theorem record_calls (state : SettlementState) (callId : String) (call : CallSettlement)
    (requested : Option ApprovalId) :
    (state.record callId call requested).calls = state.calls.insert callId call := by
  cases requested <;> rfl

theorem record_records (state : SettlementState) (callId : String) (call : CallSettlement)
    (requested : Option ApprovalId) :
    (state.record callId call requested).records =
      Function.update state.records callId (some call) := by
  funext other
  show (state.record callId call requested).calls[other]? = _
  rw [record_calls, OrdMap.get?_insert_apply, Function.update_apply]
  rfl

/-- A machine that moves leaves a record. -/
theorem settleCall_some {record next : Option CallSettlement}
    (moved : settleCall record item = some next) : ∃ call, next = some call := by
  cases kind : item.kind <;> cases record <;> simp [settleCall, kind] at moved <;> grind

/-- Only a request changes the approval of a call, and only when it has none. -/
theorem settleCall_approval {record next : Option CallSettlement}
    (moved : settleCall record item = some next) :
    match requestedApproval? item with
    | none => approvalOf next = approvalOf record
    | some approvalId => approvalOf record = none ∧ approvalOf next = some approvalId := by
  cases kind : item.kind <;> cases record <;>
    simp [settleCall, requestedApproval?, approvalOf, kind] at moved ⊢ <;> grind

theorem settleItem_other (state : SettlementState) (plain : toolCallId? item = none) :
    settleItem state item = .ok state := by
  cases kind : item.kind <;> simp [toolCallId?, kind] at plain <;> simp [settleItem, kind]

/-- **Item.**  On maps that read as the machines of the calls, `settleItem` accepts an Item
of a call exactly when the call's machine does and an approval it requests is new. -/
theorem settleItem_owned (reads : Reads state) (owned : toolCallId? item = some callId) :
    settleItem state item = .ok state' ↔ FreshApproval state item ∧
      ∃ call, settleCall state.calls[callId]? item = some (some call) ∧
        state.record callId call (requestedApproval? item) = state' := by
  cases kind : item.kind with
  | toolCall modelId origin callId' tool input batch =>
    simp only [toolCallId?, kind, Option.some.injEq] at owned
    subst owned
    cases found : state.calls[callId']? <;>
      simp [settleItem, settleCall, FreshApproval, requestedApproval?, kind, found,
        seq_eq_ok, SettlementState.record]
  | policyDecision callId' origin decision =>
    simp only [toolCallId?, kind, Option.some.injEq] at owned
    subst owned
    cases found : state.calls[callId']? with
    | none => simp [settleItem, settleCall, kind, found, bind_eq_ok]
    | some call =>
      cases decision <;>
        simp [settleItem, settleCall, FreshApproval, requestedApproval?, kind, found,
          bind_eq_ok, SettlementState.record, recordedPolicy]
  | approvalRequested approvalId callId' tool reason risk requestedBy origin digest =>
    simp only [toolCallId?, kind, Option.some.injEq] at owned
    subst owned
    cases found : state.calls[callId']? with
    | none => simp [settleItem, settleCall, kind, found, bind_eq_ok]
    | some call =>
      simp [settleItem, settleCall, FreshApproval, requestedApproval?, kind, found,
        bind_eq_ok, SettlementState.record]
      rw [← Bool.not_eq_true, Std.ExtTreeMap.contains_iff_mem]
      exact and_left_comm
  | approvalDecision approvalId callId' decision =>
    simp only [toolCallId?, kind, Option.some.injEq] at owned
    subst owned
    have listed := reads approvalId callId'
    cases found : state.calls[callId']? with
    | none => simp [settleItem, settleCall, kind, found, bind_eq_ok]
    | some call =>
      rw [found] at listed
      cases decision <;>
        simp [settleItem, settleCall, FreshApproval, requestedApproval?, kind, found,
          bind_eq_ok, SettlementState.record, listed, approvalOf,
          ApprovalDecision.isDeny]
      exact fun carried _ _ _ => carried
  | toolResult callId' output isError evidence =>
    simp only [toolCallId?, kind, Option.some.injEq] at owned
    subst owned
    cases found : state.calls[callId']? with
    | none => simp [settleItem, settleCall, kind, found, bind_eq_ok]
    | some call =>
      have admitted : settledBy call isError = true → call.policy ≠ some .deny := by
        intro settled denied
        simp [settledBy, denied] at settled
      simp [settleItem, settleCall, FreshApproval, requestedApproval?, kind, found,
        bind_eq_ok, SettlementState.record]
      grind
  | _ => simp [toolCallId?, kind] at owned

theorem record_reads {state : SettlementState} (reads : Reads state)
    (fresh : FreshApproval state item)
    (moved : settleCall state.calls[callId]? item = some (some call)) :
    Reads (state.record callId call (requestedApproval? item)) := by
  intro approvalId other
  rw [record_calls, OrdMap.get?_insert_apply]
  have carried := settleCall_approval moved
  cases requested : requestedApproval? item with
  | none =>
    rw [requested] at carried
    show state.approvals[approvalId]? = some other ↔ _
    rw [reads]
    split
    · rename_i same
      rw [same, carried]
    · exact Iff.rfl
  | some new =>
    rw [requested] at carried
    show (state.approvals.insert new callId)[approvalId]? = some other ↔ _
    rw [OrdMap.get?_insert_apply]
    have unknown : ∀ other, approvalOf state.calls[other]? ≠ some new := fun other had => by
      have listed := (reads new other).2 had
      rw [fresh new requested] at listed
      cases listed
    have listed := reads approvalId other
    grind

theorem record_fresh (state : SettlementState) (callId : String) (call : CallSettlement)
    (requested : Option ApprovalId) (approvalId : ApprovalId) :
    (state.record callId call requested).approvals[approvalId]? = none ↔
      requested ≠ some approvalId ∧ state.approvals[approvalId]? = none := by
  cases requested with
  | none => simp [SettlementState.record, SettlementState.setCall]
  | some new =>
    rw [SettlementState.record, OrdMap.get?_insert_apply]
    grind

theorem settleItems_reads (reads : Reads state) (ran : items.foldlM settleItem state = .ok state') :
    Reads state' := by
  induction items generalizing state with
  | nil =>
    cases ran
    exact reads
  | cons item rest ih =>
    rw [List.foldlM_cons] at ran
    obtain ⟨next, came, later⟩ := bind_eq_ok.1 ran
    cases owner : toolCallId? item with
    | none =>
      rw [settleItem_other state owner] at came
      cases came
      exact ih reads later
    | some callId =>
      obtain ⟨fresh, call, moved, rfl⟩ := (settleItem_owned reads owner).1 came
      exact ih (record_reads reads fresh moved) later

/-- The requests of an Item and of those after it are new and distinct exactly when its own
is new and the later ones are new and distinct after it. -/
theorem requests_iff (state : SettlementState) (callId : String) (call : CallSettlement)
    (item : Item) (later : List ApprovalId) :
    (((requestedApproval? item).toList ++ later).Nodup ∧
        ∀ approvalId ∈ (requestedApproval? item).toList ++ later,
          state.approvals[approvalId]? = none) ↔
      FreshApproval state item ∧ later.Nodup ∧
        ∀ approvalId ∈ later,
          (state.record callId call (requestedApproval? item)).approvals[approvalId]? =
            none := by
  simp only [record_fresh, FreshApproval]
  cases requestedApproval? item with
  | none => simp
  | some new => simp; grind

/-- **Items.**  The walk over the Items succeeds exactly when the machines of the calls do
and every approval is requested once. -/
theorem settleItems_eq_ok {items : List Item} {state : SettlementState} (reads : Reads state)
    {records : String → Option CallSettlement} :
    (∃ state', items.foldlM settleItem state = .ok state' ∧ Reads state' ∧
        state'.records = records) ↔
      items.foldlM settleRecords state.records = some records ∧
        (items.filterMap requestedApproval?).Nodup ∧
        ∀ approvalId ∈ items.filterMap requestedApproval?,
          state.approvals[approvalId]? = none := by
  induction items generalizing state with
  | nil =>
    simp only [List.foldlM_nil, List.filterMap_nil, List.nodup_nil, List.not_mem_nil,
      false_implies, implies_true, and_true, Option.pure_def, Option.some.injEq]
    constructor
    · rintro ⟨state', same, _, read⟩
      cases same
      exact read
    · exact fun read => ⟨state, rfl, reads, read⟩
  | cons item rest ih =>
    rw [List.foldlM_cons, List.foldlM_cons]
    cases owner : toolCallId? item with
    | none =>
      have plain : requestedApproval? item = none := by
        cases kind : item.kind <;> simp [toolCallId?, kind] at owner <;>
          simp [requestedApproval?, kind]
      have skipped : settleRecords state.records item = some state.records := by
        rw [settleRecords, Keyed.step, owner]
      rw [settleItem_other state owner, ok_bind, skipped, Option.bind_eq_bind,
        Option.bind_some, List.filterMap_cons_none plain]
      exact ih reads
    | some callId =>
      have step : settleRecords state.records item =
          (settleCall state.calls[callId]? item).map
            (Function.update state.records callId) := by
        rw [settleRecords, Keyed.step, owner]
        rfl
      have asks : (item :: rest).filterMap requestedApproval? =
          (requestedApproval? item).toList ++ rest.filterMap requestedApproval? := by
        cases asked : requestedApproval? item <;> simp [asked]
      rw [step, asks]
      constructor
      · rintro ⟨state', ran, done⟩
        obtain ⟨next, came, later⟩ := bind_eq_ok.1 ran
        obtain ⟨fresh, call, moved, rfl⟩ := (settleItem_owned reads owner).1 came
        obtain ⟨machines, requests⟩ :=
          (ih (record_reads reads fresh moved)).1 ⟨state', later, done⟩
        rw [record_records] at machines
        exact ⟨by rw [moved]; exact machines,
          (requests_iff state callId call item _).2 ⟨fresh, requests⟩⟩
      · rintro ⟨machines, requests⟩
        obtain ⟨_, came, later⟩ := Option.bind_eq_some_iff.1 machines
        obtain ⟨next, moved, rfl⟩ := Option.map_eq_some_iff.1 came
        obtain ⟨call, rfl⟩ := settleCall_some moved
        obtain ⟨fresh, requests⟩ := (requests_iff state callId call item _).1 requests
        obtain ⟨state', ran, done⟩ := (ih (record_reads reads fresh moved)).2
          ⟨by rw [record_records]; exact later, requests⟩
        exact ⟨state', bind_eq_ok.2
          ⟨_, (settleItem_owned reads owner).2 ⟨fresh, call, moved, rfl⟩, ran⟩, done⟩

/-! ## What a receipt accepts -/

/-- The announcements of a call are among its own Items. -/
theorem announced_filter (items : List Item) (callId : String) :
    (items.filterMap announcedCall?).filter (· = callId) =
      (itemsOf toolCallId? callId items).filterMap announcedCall? := by
  induction items with
  | nil => rfl
  | cons item rest ih =>
    cases announced : announcedCall? item with
    | none =>
      rw [List.filterMap_cons_none announced, ih, itemsOf, itemsOf, List.filter_cons]
      split
      · rw [List.filterMap_cons_none announced]
      · rfl
    | some other =>
      have owner : toolCallId? item = some other := by
        cases kind : item.kind <;> simp [announcedCall?, kind] at announced
        simp [toolCallId?, kind, announced]
      rw [List.filterMap_cons_some announced, itemsOf, List.filter_cons, List.filter_cons, ih]
      by_cases same : other = callId
      · simp [same, owner, announced, itemsOf]
      · simp [same, owner, itemsOf]

/-- A settled history announces its call once. -/
theorem CallHistory.announced (history : CallHistory callId items) :
    items.filterMap announcedCall? = [callId] := by
  cases history <;> simp [announcedCall?, *]

theorem settledHistories_iff :
    SettledHistories items ↔ (items.filterMap requestedApproval?).Nodup ∧
      ∀ callId, itemsOf toolCallId? callId items = [] ∨
        CallHistory callId (itemsOf toolCallId? callId items) := by
  constructor
  · refine fun settled => ⟨settled.approvals, fun callId => ?_⟩
    by_cases announced : callId ∈ items.filterMap announcedCall?
    · exact .inr (settled.history callId announced)
    · left
      refine List.eq_nil_iff_forall_not_mem.2 fun item member => announced ?_
      obtain ⟨listed, owner⟩ := mem_itemsOf.1 member
      exact settled.owned item listed callId owner
  · rintro ⟨approvals, each⟩
    have own : ∀ item ∈ items, ∀ callId, toolCallId? item = some callId →
        CallHistory callId (itemsOf toolCallId? callId items) :=
      fun item member callId owner => (each callId).resolve_left
        (List.ne_nil_of_mem (mem_itemsOf.2 ⟨member, owner⟩))
    have once : ∀ callId, (items.filterMap announcedCall?).filter (· = callId) = [] ∨
        (items.filterMap announcedCall?).filter (· = callId) = [callId] := fun callId => by
      rw [announced_filter]
      exact (each callId).imp (fun none => by rw [none]; rfl) (·.announced)
    have listed : ∀ callId, CallHistory callId (itemsOf toolCallId? callId items) →
        callId ∈ items.filterMap announcedCall? := fun callId history => by
      have alone : callId ∈ (items.filterMap announcedCall?).filter (· = callId) := by
        rw [announced_filter, history.announced]
        exact List.mem_singleton_self callId
      exact (List.mem_filter.1 alone).1
    refine ⟨?_, fun item member callId owner => listed callId (own item member callId owner),
      approvals, fun callId announced => (each callId).resolve_left fun none => ?_⟩
    · rw [List.nodup_iff_count_le_one]
      intro callId
      have alone := once callId
      rw [List.count_eq_length_filter, show (items.filterMap announcedCall?).filter (· == callId) =
        (items.filterMap announcedCall?).filter (· = callId) from rfl]
      grind
    · have unlisted := announced_filter items callId
      rw [none, List.filterMap_nil, List.filter_eq_nil_iff] at unlisted
      exact unlisted callId announced (decide_eq_true rfl)

/-- **Main theorem.**  The settlement check of a completing Turn accepts a list of Items
exactly when its Tool Items are settled histories of distinct calls, interleaved in any way. -/
theorem settled_iff_histories (items : List Item) :
    validateSettledToolsAndApprovals items = .ok () ↔ SettledHistories items := by
  have walk := fun records => @settleItems_eq_ok items _ empty_reads records
  have finished : ∀ state : SettlementState,
      (checkAll settledCall (OrdMap.values state.calls) = .ok () ↔
        ∀ callId, Finished (state.records callId)) := fun state => by
    rw [checkAll_eq_ok]
    constructor
    · exact fun each callId call found => each call (OrdMap.mem_values.2 ⟨callId, found⟩)
    · intro each call member
      obtain ⟨callId, found⟩ := OrdMap.mem_values.1 member
      exact each callId call found
  have accepted : validateSettledToolsAndApprovals items = .ok () ↔
      (∃ records, items.foldlM settleRecords (fun _ => none) = some records ∧
        ∀ callId, Finished (records callId)) ∧
      (items.filterMap requestedApproval?).Nodup := by
    rw [validateSettledToolsAndApprovals, bind_eq_ok]
    constructor
    · rintro ⟨state, ran, checked⟩
      have reads := settleItems_reads empty_reads ran
      obtain ⟨walked, once, _⟩ := (walk _).1 ⟨state, ran, reads, rfl⟩
      exact ⟨⟨_, walked, (finished state).1 checked⟩, once⟩
    · rintro ⟨⟨records, ran, each⟩, once⟩
      obtain ⟨state, walked, -, rfl⟩ := (walk records).2 ⟨ran, once, fun _ _ => rfl⟩
      exact ⟨state, walked, (finished state).2 each⟩
  rw [accepted, Keyed.accepts_iff, settledHistories_iff, and_comm]
  refine and_congr_right fun _ => forall_congr' fun callId => ?_
  exact accepts_iff_history fun item member => (mem_itemsOf.1 member).2

end YHarness

/-
# YHarness.Effects.Isolation -- what a tenant can learn of the others

All tenants share one process-local governor.  A `Book` can also serve one tenant
alone: it has no capacity to run out of, and it forgets an admission when its
retention ends (`Book.answer`).  While the shared governor has room, and no
settlement of the tenant names an admission that is kept past its retention, the
tenant is answered as by such a book, so what the others do makes no difference to
it (`dispatch_noninterference`).

An admission is dropped by the next call of `admit_as`, of any tenant, and
`settle_as` drops none.  A settlement after the retention therefore succeeds or fails
with the traffic of other tenants (`late_settlement_interferes`).
-/
import YHarness.Lib.Unwinding
import YHarness.Kernel.Storage
import YHarness.Effects.GovernorSteps

namespace YHarness.Effects

open YHarness.Lib YHarness.Kernel

set_option autoImplicit false

/-- What a call returns to the tenant that made it. -/
inductive GovernorReply where
  | admitted (reply : Except HarnessError EffectDispatchAdmissionDecision)
  | settled (reply : Except HarnessError Unit)
deriving DecidableEq

namespace GovernorCall

def authority : GovernorCall → AuthorityContext
  | admitAs _ authority => authority
  | settle _ _ _ authority => authority

/-- The clock of a call. -/
def atMs : GovernorCall → UInt64
  | admitAs request _ => request.admittedAtMs
  | settle _ _ settledAtMs _ => settledAtMs

def isOf (tenant : Option String) (call : GovernorCall) : Bool :=
  call.authority.tenantId == tenant

end GovernorCall

/-- The retention of an admission is not over. -/
def AdmissionRecord.live (atMs : UInt64) (record : AdmissionRecord) : Bool :=
  decide (atMs < record.expiresAtMs)

section Calls

variable [Sha256]

namespace MemoryState

def call (state : MemoryState) : GovernorCall → GovernorReply × MemoryState
  | .admitAs request authority => (state.admitAs request authority).map .admitted id
  | .settle admissionId settlement settledAtMs authority =>
    (state.settleAs admissionId settlement settledAtMs authority).map .settled id

/-- A new admission is refused because the governor is full. -/
def full (state : MemoryState) (validated : ValidatedAdmission) : Bool :=
  state.admissions[validated.key]?.isNone &&
    (decide (maxAdmissions ≤ state.admissions.size) ||
      (!state.lanes.contains validated.lane && decide (maxLanes ≤ state.lanes.size)))

/-- A call is within the admission and lane capacity. -/
def withinCapacity (state : MemoryState) : GovernorCall → Bool
  | .admitAs request authority =>
    match ValidatedAdmission.new request authority with
    | .error _ => true
    | .ok validated => !(state.prune validated.admittedAtMs).full validated
  | .settle .. => true

/-- A settlement names no admission that is kept past its retention. -/
def withinRetention (state : MemoryState) : GovernorCall → Bool
  | .settle admissionId _ settledAtMs authority =>
    state.admissions[(⟨tenantKey authority, admissionId⟩ : AdmissionKey)]?.all
      (AdmissionRecord.live settledAtMs)
  | .admitAs .. => true

end MemoryState

/-! ## A governor for one tenant -/

namespace Book

def forget (b : Book) (atMs : UInt64) : Book :=
  { b with admissions := fun key => (b.admissions key).filter (AdmissionRecord.live atMs) }

/-- The decision of an admission that is not retained. -/
def admitNew (b : Book) (validated : ValidatedAdmission) :
    Except HarnessError EffectDispatchAdmissionDecision × Book :=
  let lane := b.laneFor validated
  match validateLanePolicy lane validated.policySha256 with
  | .error error => (.error error, b.setLane validated.lane lane)
  | .ok () =>
    let decided := lane.decide validated
    let b := b.setLane validated.lane decided.2
    match decided.1 with
    | .error error => (.error error, b)
    | .ok (decision, epoch) =>
      match admissionRecord validated epoch decision with
      | .error error => (.error error, b)
      | .ok record => (.ok decision, b.setAdmission validated.key record)

def admitAlone (b : Book) (request : EffectDispatchAdmissionRequest)
    (authority : AuthorityContext) :
    Except HarnessError EffectDispatchAdmissionDecision × Book :=
  match ValidatedAdmission.new request authority with
  | .error error => (.error error, b)
  | .ok validated =>
    let b := b.forget validated.admittedAtMs
    match b.admissions validated.key with
    | some existing => ((validateDuplicate existing validated).map fun _ => existing.decision, b)
    | none => b.admitNew validated

def settleFound (b : Book) (key : AdmissionKey) (record : AdmissionRecord)
    (settlement : EffectDispatchSettlement) (settledAtMs : UInt64) :
    Except HarnessError Unit × Book :=
  match validateSettlementRecord record settlement settledAtMs with
  | .error error => (.error error, b)
  | .ok () =>
    if record.settlement.isSome then (.ok (), b)
    else
      let laneKey := laneKey record.operation record.policy key.tenantId
      match b.lanes laneKey with
      | none => (.error (governorError "admission lane is missing"), b)
      | some lane =>
        let applied := lane.applySettlement key.admissionId record settlement settledAtMs
        let b := b.setLane laneKey applied.2
        match applied.1 with
        | .error error => (.error error, b)
        | .ok () => (.ok (), b.setAdmission key { record with settlement := some settlement })

def settleAlone (b : Book) (admissionId : EffectLeaseId) (settlement : EffectDispatchSettlement)
    (settledAtMs : UInt64) (authority : AuthorityContext) : Except HarnessError Unit × Book :=
  match validateSettlement admissionId settledAtMs authority with
  | .error error => (.error error, b)
  | .ok () =>
    let b := b.forget settledAtMs
    match b.admissions ⟨tenantKey authority, admissionId⟩ with
    | none => (.error (governorError "admission does not exist or retention expired"), b)
    | some record => b.settleFound ⟨tenantKey authority, admissionId⟩ record settlement settledAtMs

/-- The answer of a governor that serves one tenant. -/
def answer (b : Book) : GovernorCall → GovernorReply × Book
  | .admitAs request authority => (b.admitAlone request authority).map .admitted id
  | .settle admissionId settlement settledAtMs authority =>
    (b.settleAlone admissionId settlement settledAtMs authority).map .settled id

end Book

end Calls

/-! ## The view of a tenant -/

/-- A tenant reads the same lanes in a governor and in a book, and the same
admissions whose retention is not over. -/
structure MemoryState.Sees (tenant : String) (now : UInt64) (state : MemoryState) (b : Book) :
    Prop where
  lanes : ∀ key : LaneKey, key.tenantId = tenant → state.lanes[key]? = b.lanes key
  admissions : ∀ key : AdmissionKey, key.tenantId = tenant →
    state.admissions[key]?.filter (AdmissionRecord.live now) =
      (b.admissions key).filter (AdmissionRecord.live now)

namespace MemoryState

/-- What is live later is live now. -/
theorem live_filter {now atMs : UInt64} (later : now ≤ atMs) (found : Option AdmissionRecord) :
    (found.filter (AdmissionRecord.live now)).filter (AdmissionRecord.live atMs) =
      found.filter (AdmissionRecord.live atMs) := by
  rw [Option.filter_filter]
  congr 1
  funext record
  by_cases live : atMs < record.expiresAtMs
  · simp [AdmissionRecord.live, live, UInt64.lt_of_le_of_lt later live]
  · simp [AdmissionRecord.live, live]

theorem get?_prune (state : MemoryState) (atMs : UInt64) (key : AdmissionKey) :
    (state.prune atMs).admissions[key]? =
      state.admissions[key]?.filter (AdmissionRecord.live atMs) := by
  show (state.admissions.filter fun _ r => decide (atMs < r.expiresAtMs))[key]? = _
  rw [Std.ExtTreeMap.getElem?_filter']
  rfl

namespace Sees

variable {tenant : String} {now atMs : UInt64} {state : MemoryState} {b : Book}

theorem later (seen : state.Sees tenant now b) (le : now ≤ atMs) : state.Sees tenant atMs b where
  lanes := seen.lanes
  admissions key own := by
    rw [← live_filter le state.admissions[key]?, seen.admissions key own, live_filter le]

theorem prune (seen : state.Sees tenant now b) (le : now ≤ atMs) :
    (state.prune atMs).Sees tenant atMs b where
  lanes := seen.lanes
  admissions key own := by
    rw [get?_prune, live_filter (UInt64.le_refl _)]
    exact (seen.later le).admissions key own

theorem forget (seen : state.Sees tenant atMs b) : state.Sees tenant atMs (b.forget atMs) where
  lanes := seen.lanes
  admissions key own := by
    show _ = ((b.admissions key).filter (AdmissionRecord.live atMs)).filter _
    rw [live_filter (UInt64.le_refl _)]
    exact seen.admissions key own

theorem insertLane (seen : state.Sees tenant now b) (key : LaneKey) (lane : LaneState) :
    Sees tenant now { state with lanes := state.lanes.insert key lane } (b.setLane key lane) where
  lanes key' own := by
    by_cases here : key' = key
    · rw [here, OrdMap.get?_insert_self, Book.lanes_setLane]
    · rw [OrdMap.get?_insert_of_ne _ _ (Ne.symm here), Book.lanes_setLane_of_ne _ _ here]
      exact seen.lanes key' own
  admissions := seen.admissions

theorem insertAdmission (seen : state.Sees tenant now b) (key : AdmissionKey)
    (record : AdmissionRecord) :
    Sees tenant now { state with admissions := state.admissions.insert key record }
      (b.setAdmission key record) where
  lanes := seen.lanes
  admissions key' own := by
    by_cases here : key' = key
    · rw [here, OrdMap.get?_insert_self, Book.admissions_setAdmission]
    · rw [OrdMap.get?_insert_of_ne _ _ (Ne.symm here),
        Book.admissions_setAdmission_of_ne _ _ here]
      exact seen.admissions key' own

theorem modifyAdmission (seen : state.Sees tenant now b) {key : AdmissionKey}
    {record : AdmissionRecord} (found : state.admissions[key]? = some record)
    (f : AdmissionRecord → AdmissionRecord) :
    Sees tenant now { state with admissions := state.admissions.modify key f }
      (b.setAdmission key (f record)) where
  lanes := seen.lanes
  admissions key' own := by
    by_cases here : key' = key
    · rw [here, OrdMap.get?_modify_self, found, Book.admissions_setAdmission]
      rfl
    · rw [OrdMap.get?_modify_of_ne _ _ (Ne.symm here), Book.admissions_setAdmission_of_ne _ _ here]
      exact seen.admissions key' own

/-! What another tenant writes is not seen. -/

theorem insertOtherLane (seen : state.Sees tenant now b) {key : LaneKey}
    (other : key.tenantId ≠ tenant) (lane : LaneState) :
    Sees tenant now { state with lanes := state.lanes.insert key lane } b where
  lanes key' own := by
    rw [OrdMap.get?_insert_of_ne]
    · exact seen.lanes key' own
    · rintro rfl
      exact other own
  admissions := seen.admissions

theorem insertOtherAdmission (seen : state.Sees tenant now b) {key : AdmissionKey}
    (other : key.tenantId ≠ tenant) (record : AdmissionRecord) :
    Sees tenant now { state with admissions := state.admissions.insert key record } b where
  lanes := seen.lanes
  admissions key' own := by
    rw [OrdMap.get?_insert_of_ne]
    · exact seen.admissions key' own
    · rintro rfl
      exact other own

theorem modifyOtherAdmission (seen : state.Sees tenant now b) {key : AdmissionKey}
    (other : key.tenantId ≠ tenant) (f : AdmissionRecord → AdmissionRecord) :
    Sees tenant now { state with admissions := state.admissions.modify key f } b where
  lanes := seen.lanes
  admissions key' own := by
    rw [OrdMap.get?_modify_of_ne]
    · exact seen.admissions key' own
    · rintro rfl
      exact other own

end Sees

/-! ## Calls of the tenant -/

variable {tenant : String} {now : UInt64} {state : MemoryState} {b : Book}
  {request : EffectDispatchAdmissionRequest} {authority : AuthorityContext}
  {validated : ValidatedAdmission}

theorem admitLane_seen (seen : state.Sees tenant now b) (own : validated.lane.tenantId = tenant) :
    (state.admitLane validated (state.lanes[validated.lane]?.getD (initialLane validated))).1 =
        (b.admitNew validated).1 ∧
      (state.admitLane validated (state.lanes[validated.lane]?.getD (initialLane validated))).2.Sees
        tenant now (b.admitNew validated).2 := by
  unfold admitLane Book.admitNew Book.laneFor
  rw [seen.lanes validated.lane own]
  dsimp only
  cases validateLanePolicy ((b.lanes validated.lane).getD (initialLane validated))
      validated.policySha256 with
  | error error => exact ⟨rfl, seen.insertLane _ _⟩
  | ok _ =>
    dsimp only
    cases (((b.lanes validated.lane).getD (initialLane validated)).decide validated).1 with
    | error error => exact ⟨rfl, seen.insertLane _ _⟩
    | ok decided =>
      dsimp only
      cases admissionRecord validated decided.2 decided.1 with
      | error error => exact ⟨rfl, seen.insertLane _ _⟩
      | ok record => exact ⟨rfl, (seen.insertLane _ _).insertAdmission _ _⟩

theorem admitAs_seen [Sha256] (seen : state.Sees (tenantKey authority) now b)
    (due : now ≤ request.admittedAtMs)
    (room : state.withinCapacity (.admitAs request authority) = true) :
    (state.admitAs request authority).1 = (b.admitAlone request authority).1 ∧
      (state.admitAs request authority).2.Sees (tenantKey authority) request.admittedAtMs
        (b.admitAlone request authority).2 := by
  unfold admitAs Book.admitAlone
  cases created : ValidatedAdmission.new request authority with
  | error error => exact ⟨rfl, seen.later due⟩
  | ok validated =>
    obtain ⟨_, _, admittedAtMs, lane⟩ := ValidatedAdmission.new_fields created
    have own : validated.lane.tenantId = tenantKey authority := by rw [lane]; rfl
    rw [withinCapacity, created, Bool.not_eq_true'] at room
    rw [← admittedAtMs] at due ⊢
    have pruned := (seen.prune due).forget
    have kept : (state.prune validated.admittedAtMs).admissions[validated.key]? =
        (b.forget validated.admittedAtMs).admissions validated.key := by
      rw [get?_prune]
      exact (seen.later due).admissions validated.key own
    dsimp only
    unfold admitValidated
    rw [← kept]
    cases found : (state.prune validated.admittedAtMs).admissions[validated.key]? with
    | some existing => exact ⟨rfl, pruned⟩
    | none =>
      rw [full, found, Option.isNone_none, Bool.true_and, Bool.or_eq_false_iff] at room
      dsimp only
      rw [if_neg (by simpa using room.1), if_neg (by simpa using room.2)]
      exact admitLane_seen pruned own

theorem settle_seen {key : AdmissionKey} {record : AdmissionRecord}
    (seen : state.Sees key.tenantId now b) (found : state.admissions[key]? = some record)
    (settlement : EffectDispatchSettlement) (settledAtMs : UInt64) :
    (state.settle key record settlement settledAtMs).1 =
        (b.settleFound key record settlement settledAtMs).1 ∧
      (state.settle key record settlement settledAtMs).2.Sees key.tenantId now
        (b.settleFound key record settlement settledAtMs).2 := by
  unfold settle Book.settleFound
  dsimp only
  rw [seen.lanes (laneKey record.operation record.policy key.tenantId) rfl]
  cases validateSettlementRecord record settlement settledAtMs with
  | error error => exact ⟨rfl, seen⟩
  | ok _ =>
    dsimp only
    by_cases settled : record.settlement.isSome = true
    · rw [if_pos settled, if_pos settled]
      exact ⟨rfl, seen⟩
    · rw [if_neg settled, if_neg settled]
      cases b.lanes (laneKey record.operation record.policy key.tenantId) with
      | none => exact ⟨rfl, seen⟩
      | some lane =>
        dsimp only
        cases (lane.applySettlement key.admissionId record settlement settledAtMs).1 with
        | error error => exact ⟨rfl, seen.insertLane _ _⟩
        | ok _ => exact ⟨rfl, (seen.insertLane _ _).modifyAdmission found _⟩

theorem settleAs_seen {admissionId : EffectLeaseId} {settlement : EffectDispatchSettlement}
    {settledAtMs : UInt64} (seen : state.Sees (tenantKey authority) now b)
    (due : now ≤ settledAtMs)
    (kept : state.withinRetention (.settle admissionId settlement settledAtMs authority) = true) :
    (state.settleAs admissionId settlement settledAtMs authority).1 =
        (b.settleAlone admissionId settlement settledAtMs authority).1 ∧
      (state.settleAs admissionId settlement settledAtMs authority).2.Sees (tenantKey authority)
        settledAtMs (b.settleAlone admissionId settlement settledAtMs authority).2 := by
  unfold settleAs Book.settleAlone
  cases validateSettlement admissionId settledAtMs authority with
  | error error => exact ⟨rfl, seen.later due⟩
  | ok _ =>
    have forgotten := (seen.later due).forget
    have read : (b.forget settledAtMs).admissions ⟨tenantKey authority, admissionId⟩ =
        state.admissions[(⟨tenantKey authority, admissionId⟩ : AdmissionKey)]? := by
      show (b.admissions _).filter _ = _
      rw [← (seen.later due).admissions _ rfl]
      cases found : state.admissions[(⟨tenantKey authority, admissionId⟩ : AdmissionKey)]? with
      | none => rfl
      | some record =>
        rw [withinRetention, found, Option.all_some] at kept
        rw [Option.filter_some_pos kept]
    dsimp only
    rw [read]
    cases found : state.admissions[(⟨tenantKey authority, admissionId⟩ : AdmissionKey)]? with
    | none => exact ⟨rfl, forgotten⟩
    | some record => exact settle_seen forgotten found settlement settledAtMs

/-! ## Calls of the others -/

theorem admitAs_apart [Sha256] (seen : state.Sees tenant now b) (due : now ≤ request.admittedAtMs)
    (other : tenantKey authority ≠ tenant) :
    (state.admitAs request authority).2.Sees tenant request.admittedAtMs b := by
  unfold admitAs
  cases created : ValidatedAdmission.new request authority with
  | error error => exact seen.later due
  | ok validated =>
    obtain ⟨_, _, admittedAtMs, lane⟩ := ValidatedAdmission.new_fields created
    have other : validated.lane.tenantId ≠ tenant := by rwa [lane]
    rw [← admittedAtMs] at due ⊢
    have pruned := seen.prune due
    show (admitValidated _ validated).2.Sees tenant _ b
    unfold admitValidated
    cases (state.prune validated.admittedAtMs).admissions[validated.key]? with
    | some existing => exact pruned
    | none =>
      dsimp only
      split
      · exact pruned
      · split
        · exact pruned
        · unfold admitLane
          split
          · exact pruned.insertOtherLane other _
          · dsimp only
            split
            · exact pruned.insertOtherLane other _
            · split
              · exact pruned.insertOtherLane other _
              · exact (pruned.insertOtherLane other _).insertOtherAdmission other _

theorem settleAs_apart {admissionId : EffectLeaseId} {settlement : EffectDispatchSettlement}
    {settledAtMs : UInt64} (seen : state.Sees tenant now b)
    (other : tenantKey authority ≠ tenant) :
    (state.settleAs admissionId settlement settledAtMs authority).2.Sees tenant now b := by
  unfold settleAs
  split
  · exact seen
  · dsimp only
    split
    · exact seen
    · unfold settle
      split
      · exact seen
      · dsimp only
        split
        · exact seen
        · split
          · exact seen
          · split
            · exact seen.insertOtherLane other _
            · exact (seen.insertOtherLane other _).modifyOtherAdmission other _

end MemoryState

/-! ## Noninterference -/

variable {authority : AuthorityContext}

/-- Only a tenant that passes its check is served. -/
theorem ValidatedAdmission.new_tenant [Sha256] {request : EffectDispatchAdmissionRequest}
    {validated : ValidatedAdmission}
    (created : ValidatedAdmission.new request authority = .ok validated) :
    Kernel.validateTenant authority.tenantId = .ok () := by
  obtain ⟨current, _⟩ := seq_eq_ok.1 created
  exact (seq_eq_ok.1 (mapError_eq_ok.1 current)).2

theorem validateSettlement_tenant {admissionId : EffectLeaseId} {settledAtMs : UInt64}
    (valid : validateSettlement admissionId settledAtMs authority = .ok ()) :
    Kernel.validateTenant authority.tenantId = .ok () := by
  obtain ⟨current, _⟩ := seq_eq_ok.1 valid
  exact (seq_eq_ok.1 (mapError_eq_ok.1 current)).2

namespace MemoryState

variable {tenant : Option String} {now : UInt64} {state : MemoryState} {b : Book}

/-- The calls of a tenant that does not pass its check are refused alike. -/
theorem call_refused [Sha256] {call : GovernorCall} (own : call.isOf tenant = true)
    (invalid : Kernel.validateTenant tenant ≠ .ok ()) : (state.call call).1 = (b.answer call).1 := by
  have tenantOf : call.authority.tenantId = tenant := beq_iff_eq.1 own
  cases call with
  | admitAs request authority =>
    refine congrArg GovernorReply.admitted (?_ : (state.admitAs request authority).1 =
      (b.admitAlone request authority).1)
    unfold MemoryState.admitAs Book.admitAlone
    cases created : ValidatedAdmission.new request authority with
    | error error => rfl
    | ok validated => exact absurd (tenantOf ▸ ValidatedAdmission.new_tenant created) invalid
  | settle admissionId settlement settledAtMs authority =>
    refine congrArg GovernorReply.settled
      (?_ : (state.settleAs admissionId settlement settledAtMs authority).1 =
        (b.settleAlone admissionId settlement settledAtMs authority).1)
    unfold MemoryState.settleAs Book.settleAlone
    cases valid : validateSettlement admissionId settledAtMs authority with
    | error error => rfl
    | ok _ => exact absurd (tenantOf ▸ validateSettlement_tenant valid) invalid

/-- **The view of a tenant** moves with its own calls as a book that serves it alone,
and stays with the calls of the others. -/
theorem call_unwinds [Sha256] (tenant : Option String) :
    Unwinds MemoryState.call Book.answer (·.isOf tenant) GovernorCall.atMs
      (fun state call => call.isOf tenant = true →
        state.withinCapacity call = true ∧ state.withinRetention call = true)
      (fun now state b => Kernel.validateTenant tenant = .ok () →
        state.Sees (tenantStorageKey tenant) now b) where
  own := by
    intro now state b call seen due assumed own
    have tenantOf : call.authority.tenantId = tenant := beq_iff_eq.1 own
    by_cases valid : Kernel.validateTenant tenant = .ok ()
    · obtain ⟨room, kept⟩ := assumed own
      subst tenantOf
      cases call with
      | admitAs request authority =>
        obtain ⟨same, seen⟩ := admitAs_seen (seen valid) due room
        exact ⟨congrArg GovernorReply.admitted same, fun _ => seen⟩
      | settle admissionId settlement settledAtMs authority =>
        obtain ⟨same, seen⟩ := settleAs_seen (seen valid) due kept
        exact ⟨congrArg GovernorReply.settled same, fun _ => seen⟩
    · exact ⟨call_refused own valid, fun admitted => absurd admitted valid⟩
  others := by
    intro now state b call seen due other valid
    have seen := seen valid
    have other : call.authority.tenantId ≠ tenant := by
      intro same
      rw [GovernorCall.isOf, same, beq_self_eq_true] at other
      cases other
    by_cases otherValid : Kernel.validateTenant call.authority.tenantId = .ok ()
    · have apart : tenantKey call.authority ≠ tenantStorageKey tenant := fun same =>
        other (tenantStorageKey_injective otherValid valid same)
      cases call with
      | admitAs request authority => exact admitAs_apart seen due apart
      | settle admissionId settlement settledAtMs authority =>
        exact (settleAs_apart seen apart).later due
    · cases call with
      | admitAs request authority =>
        show (admitAs state request authority).2.Sees _ _ _
        unfold admitAs
        cases created : ValidatedAdmission.new request authority with
        | error error => exact seen.later due
        | ok validated => exact absurd (ValidatedAdmission.new_tenant created) otherValid
      | settle admissionId settlement settledAtMs authority =>
        show (settleAs state admissionId settlement settledAtMs authority).2.Sees _ _ _
        unfold settleAs
        cases checked : validateSettlement admissionId settledAtMs authority with
        | error error => exact seen.later due
        | ok _ => exact absurd (validateSettlement_tenant checked) otherValid

theorem empty_sees (tenant : String) (now : UInt64) : empty.Sees tenant now .empty where
  lanes key _ := by simp [empty, Book.empty]
  admissions key _ := by simp [empty, Book.empty]

/-- **Dispatch noninterference.**  Two runs that coincide on the calls of a tenant, on
one clock that does not go back, answer the tenant alike, whatever the other tenants
call: while its calls find room, and settle no admission that is kept past its
retention. -/
theorem dispatch_noninterference [Sha256] {calls calls' : List GovernorCall}
    (same : calls.filter (·.isOf tenant) = calls'.filter (·.isOf tenant))
    (clocked : Clocked GovernorCall.atMs calls) (clocked' : Clocked GovernorCall.atMs calls')
    (within : Throughout call (fun state call => call.isOf tenant = true →
      state.withinCapacity call = true ∧ state.withinRetention call = true) .empty calls)
    (within' : Throughout call (fun state call => call.isOf tenant = true →
      state.withinCapacity call = true ∧ state.withinRetention call = true) .empty calls') :
    replies call (·.isOf tenant) .empty calls = replies call (·.isOf tenant) .empty calls' :=
  (call_unwinds tenant).noninterference (fun _ _ => empty_sees _ _) same clocked clocked' within
    within'

end MemoryState

/-! ## A sample -/

namespace MemoryState

section Sample

attribute [local instance] constantSha256

/-- The admission and the settlement of tenant-a, with an admission of tenant-b
between them. -/
def sampleShared (otherAtMs settledAtMs : UInt64) : List GovernorCall :=
  [DispatchGovernor.sampleAdmission "lease-1" 1,
    .admitAs ⟨"lease-2", ⟨"notification.test", "send"⟩, DispatchGovernor.samplePolicy, otherAtMs⟩
      ⟨.authenticated "test" "worker", some "tenant-b"⟩,
    DispatchGovernor.sampleSettlement "lease-1" .healthy settledAtMs]

def sampleOwn (settledAtMs : UInt64) : List GovernorCall :=
  [DispatchGovernor.sampleAdmission "lease-1" 1,
    DispatchGovernor.sampleSettlement "lease-1" .healthy settledAtMs]

theorem dispatch_noninterference_sample :
    replies call (·.isOf (some "tenant-a")) .empty (sampleShared 1 2) =
      replies call (·.isOf (some "tenant-a")) .empty (sampleOwn 2) :=
  dispatch_noninterference (by decide +kernel) (by decide +kernel) (by decide +kernel)
    (by decide +kernel) (by decide +kernel)

/-- The retention of the admission ends at 604800001.  The admission of tenant-b at
that time drops it, so the settlement of tenant-a fails; without that admission it
succeeds. -/
theorem late_settlement_interferes :
    ∃ calls calls' : List GovernorCall,
      calls.filter (·.isOf (some "tenant-a")) = calls'.filter (·.isOf (some "tenant-a")) ∧
      Clocked GovernorCall.atMs calls ∧ Clocked GovernorCall.atMs calls' ∧
      Throughout call (fun state call => state.withinCapacity call = true) .empty calls ∧
      Throughout call (fun state call => state.withinCapacity call = true) .empty calls' ∧
      replies call (·.isOf (some "tenant-a")) .empty calls =
        [.admitted (.ok .allow), .settled (.error (governorError
          "admission does not exist or retention expired"))] ∧
      replies call (·.isOf (some "tenant-a")) .empty calls' =
        [.admitted (.ok .allow), .settled (.ok ())] :=
  ⟨sampleShared 604800001 604800001, sampleOwn 604800001, by decide +kernel, by decide +kernel,
    by decide +kernel, by decide +kernel, by decide +kernel, by decide +kernel, by decide +kernel⟩

end Sample

end MemoryState

end YHarness.Effects

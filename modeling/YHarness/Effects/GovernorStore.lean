/-
# YHarness.Effects.GovernorStore -- the two dispatch governors and their runs

The process-local and the SQLite governor of `src/effect/governor.rs`.  A call
on the first keeps what it wrote before an error; a transaction of the second
that fails writes nothing.  A table with a primary key is an ordered map from
keys to rows, and a row holds the record that its JSON text encodes.

`DispatchGovernor.run` is any sequence of admissions and settlements on either
of them.  It logs the grants it makes and the settlements it records; a decision
that is read back from a retained admission is not made again.
-/
import YHarness.Kernel.Storage
import YHarness.Effects.Governor

namespace YHarness.Effects

open YHarness.Lib YHarness.Kernel

set_option autoImplicit false

variable [Sha256]

/-! ## The process-local governor -/

structure MemoryState where
  lanes : OrdMap LaneKey LaneState
  admissions : OrdMap AdmissionKey AdmissionRecord

namespace MemoryState

def empty : MemoryState :=
  ⟨∅, ∅⟩

/-- `prune_memory`. -/
def prune (state : MemoryState) (atMs : UInt64) : MemoryState :=
  { state with admissions := state.admissions.filter fun _ r => decide (atMs < r.expiresAtMs) }

/-- The decision of a lane for an admission that is not retained. -/
def admitLane (state : MemoryState) (validated : ValidatedAdmission) (lane : LaneState) :
    Except HarnessError EffectDispatchAdmissionDecision × MemoryState :=
  match validateLanePolicy lane validated.policySha256 with
  | .error error => (.error error, { state with lanes := state.lanes.insert validated.lane lane })
  | .ok () =>
    let decided := lane.decide validated
    let state := { state with lanes := state.lanes.insert validated.lane decided.2 }
    match decided.1 with
    | .error error => (.error error, state)
    | .ok (decision, epoch) =>
      match admissionRecord validated epoch decision with
      | .error error => (.error error, state)
      | .ok record =>
        (.ok decision,
          { state with admissions := state.admissions.insert validated.key record })

def admitValidated (state : MemoryState) (validated : ValidatedAdmission) :
    Except HarnessError EffectDispatchAdmissionDecision × MemoryState :=
  match state.admissions[validated.key]? with
  | some existing =>
    ((validateDuplicate existing validated).map fun _ => existing.decision, state)
  | none =>
    if maxAdmissions ≤ state.admissions.size then
      (.error (governorError "admission capacity exhausted"), state)
    else if !state.lanes.contains validated.lane && decide (maxLanes ≤ state.lanes.size) then
      (.error (governorError "lane capacity exhausted"), state)
    else state.admitLane validated (state.lanes[validated.lane]?.getD (initialLane validated))

def admitAs (state : MemoryState) (request : EffectDispatchAdmissionRequest)
    (authority : AuthorityContext) :
    Except HarnessError EffectDispatchAdmissionDecision × MemoryState :=
  match ValidatedAdmission.new request authority with
  | .error error => (.error error, state)
  | .ok validated => (state.prune validated.admittedAtMs).admitValidated validated

/-- The settlement of a retained admission. -/
def settle (state : MemoryState) (key : AdmissionKey) (record : AdmissionRecord)
    (settlement : EffectDispatchSettlement) (settledAtMs : UInt64) :
    Except HarnessError Unit × MemoryState :=
  match validateSettlementRecord record settlement settledAtMs with
  | .error error => (.error error, state)
  | .ok () =>
    if record.settlement.isSome then (.ok (), state)
    else
      let laneKey := laneKey record.operation record.policy key.tenantId
      match state.lanes[laneKey]? with
      | none => (.error (governorError "admission lane is missing"), state)
      | some lane =>
        let applied := lane.applySettlement key.admissionId record settlement settledAtMs
        let state := { state with lanes := state.lanes.insert laneKey applied.2 }
        match applied.1 with
        | .error error => (.error error, state)
        | .ok () =>
          (.ok (), { state with
            admissions := state.admissions.modify key fun r =>
              { r with settlement := some settlement } })

def settleAs (state : MemoryState) (admissionId : EffectLeaseId)
    (settlement : EffectDispatchSettlement) (settledAtMs : UInt64) (authority : AuthorityContext) :
    Except HarnessError Unit × MemoryState :=
  match validateSettlement admissionId settledAtMs authority with
  | .error error => (.error error, state)
  | .ok () =>
    let key : AdmissionKey := ⟨tenantKey authority, admissionId⟩
    match state.admissions[key]? with
    | none => (.error (governorError "admission does not exist or retention expired"), state)
    | some record => state.settle key record settlement settledAtMs

end MemoryState

/-! ## The SQLite governor -/

structure LaneRow where
  policySha256 : String
  state : LaneState

structure AdmissionRow where
  expiresAtMs : Int
  settlement : Option EffectDispatchSettlement
  admission : AdmissionRecord

structure SqliteGovernorState where
  lanes : OrdMap LaneKey LaneRow
  admissions : OrdMap AdmissionKey AdmissionRow
  laneCount : Int
  admissionCount : Int

def sqlTime (value : UInt64) : Except HarnessError Int :=
  i64TryFrom (governorError "time exceeds SQLite") value

/-- `encode_bounded` of a record about to be written. -/
def encodeBounded (value : Json) (maximum : Nat) (kind : String) : Except HarnessError Unit :=
  rejectIf (decide (maximum < value.encodedLen)) (governorError s!"{kind} exceeds {maximum} bytes")

/-- `bounded_text` of a column about to be read. -/
def boundedColumn (value : Json) (maximum : Nat) (kind : String) : Except HarnessError Unit :=
  rejectIf (decide (maximum < value.encodedLen))
    (governorError s!"SQLite: {kind} exceeds {maximum} bytes")

namespace SqliteGovernorState

def empty : SqliteGovernorState :=
  ⟨∅, ∅, 0, 0⟩

def updateCounts (s : SqliteGovernorState) (laneDelta admissionDelta : Int) :
    Except HarnessError SqliteGovernorState := do
  rejectIf (decide (s.laneCount + laneDelta < 0) || decide (s.admissionCount + admissionDelta < 0))
    (governorError "SQLite: CHECK constraint failed")
  .ok { s with
    laneCount := s.laneCount + laneDelta
    admissionCount := s.admissionCount + admissionDelta }

/-- `prune_sql`. -/
def prune (s : SqliteGovernorState) (atMs : UInt64) : Except HarnessError SqliteGovernorState := do
  let bound ← sqlTime atMs
  let kept := s.admissions.filter fun _ row => decide (bound < row.expiresAtMs)
  if kept.size = s.admissions.size then .ok { s with admissions := kept }
  else
    SqliteGovernorState.updateCounts { s with admissions := kept } 0
      ((kept.size : Int) - (s.admissions.size : Int))

def loadLane (s : SqliteGovernorState) (key : LaneKey) : Except HarnessError (Option LaneState) :=
  match s.lanes[key]? with
  | none => .ok none
  | some row => do
    boundedColumn row.state.toJson maxLaneStateJsonBytes "Effect governor lane"
    rejectIf (row.policySha256 != row.state.policySha256)
      (governorError "SQLite lane digest disagrees with state")
    validateLaneState row.state
    .ok (some row.state)

def saveLane (s : SqliteGovernorState) (key : LaneKey) (lane : LaneState) :
    Except HarnessError SqliteGovernorState := do
  encodeBounded lane.toJson maxLaneStateJsonBytes "lane state"
  .ok { s with lanes := s.lanes.insert key ⟨lane.policySha256, lane⟩ }

def loadAdmission (s : SqliteGovernorState) (key : AdmissionKey) :
    Except HarnessError (Option AdmissionRecord) :=
  match s.admissions[key]? with
  | none => .ok none
  | some row => do
    boundedColumn row.admission.toJson maxAdmissionJsonBytes "Effect governor admission"
    validateAdmissionRecord row.admission
    let expiresAtMs ← sqlTime row.admission.expiresAtMs
    rejectIf (row.expiresAtMs != expiresAtMs)
      (governorError "SQLite admission expiry disagrees with state")
    rejectIf (row.admission.settlement.isSome && row.admission.settlement != row.settlement)
      (governorError "SQLite admission settlement disagrees with state")
    .ok (some { row.admission with settlement := row.settlement })

def saveAdmission (s : SqliteGovernorState) (key : AdmissionKey) (record : AdmissionRecord) :
    Except HarnessError SqliteGovernorState := do
  encodeBounded record.toJson maxAdmissionJsonBytes "admission"
  let expiresAtMs ← sqlTime record.expiresAtMs
  rejectIf (s.admissions.contains key || decide (expiresAtMs ≤ 0))
    (governorError "SQLite: constraint failed")
  .ok { s with admissions := s.admissions.insert key ⟨expiresAtMs, none, record⟩ }

/-- The transaction of an admission. -/
def admitValidated (s : SqliteGovernorState) (validated : ValidatedAdmission) :
    Except HarnessError (EffectDispatchAdmissionDecision × SqliteGovernorState) := do
  let s ← s.prune validated.admittedAtMs
  let existing ← s.loadAdmission validated.key
  match existing with
  | some existing => do
    validateDuplicate existing validated
    .ok (existing.decision, s)
  | none => do
    rejectIf (decide ((maxAdmissions : Int) ≤ s.admissionCount))
      (governorError "admission capacity exhausted")
    let existingLane ← s.loadLane validated.lane
    rejectIf (existingLane.isNone && decide ((maxLanes : Int) ≤ s.laneCount))
      (governorError "lane capacity exhausted")
    let lane := existingLane.getD (initialLane validated)
    validateLanePolicy lane validated.policySha256
    let (decision, epoch) ← (lane.decide validated).1
    let s ← s.saveLane validated.lane (lane.decide validated).2
    let s ← (if existingLane.isNone then s.updateCounts 1 0 else .ok s)
    let record ← admissionRecord validated epoch decision
    let s ← s.saveAdmission validated.key record
    let s ← s.updateCounts 0 1
    .ok (decision, s)

/-- The transaction of a settlement. -/
def settle (s : SqliteGovernorState) (key : AdmissionKey) (settlement : EffectDispatchSettlement)
    (settledAtMs : UInt64) : Except HarnessError (Unit × SqliteGovernorState) := do
  let found ← s.loadAdmission key
  let record ← orError (governorError "admission does not exist or retention expired") found
  validateSettlementRecord record settlement settledAtMs
  if record.settlement.isSome then .ok ((), s)
  else do
    let laneKey := laneKey record.operation record.policy key.tenantId
    let found ← s.loadLane laneKey
    let lane ← orError (governorError "admission lane is missing") found
    (lane.applySettlement key.admissionId record settlement settledAtMs).1
    let s ← s.saveLane laneKey (lane.applySettlement key.admissionId record settlement settledAtMs).2
    rejectIf (!(s.admissions[key]?.any fun row => row.settlement.isNone))
      (governorError "settlement changed an unexpected row count")
    .ok ((), { s with
      admissions := s.admissions.modify key fun row => { row with settlement := some settlement } })

/-- A transaction that fails is rolled back. -/
def transact {α : Type} (s : SqliteGovernorState)
    (transaction : Except HarnessError (α × SqliteGovernorState)) :
    Except HarnessError α × SqliteGovernorState :=
  match transaction with
  | .error error => (.error error, s)
  | .ok (reply, next) => (.ok reply, next)

def admitAs (s : SqliteGovernorState) (request : EffectDispatchAdmissionRequest)
    (authority : AuthorityContext) :
    Except HarnessError EffectDispatchAdmissionDecision × SqliteGovernorState :=
  match ValidatedAdmission.new request authority with
  | .error error => (.error error, s)
  | .ok validated => s.transact (s.admitValidated validated)

def settleAs (s : SqliteGovernorState) (admissionId : EffectLeaseId)
    (settlement : EffectDispatchSettlement) (settledAtMs : UInt64) (authority : AuthorityContext) :
    Except HarnessError Unit × SqliteGovernorState :=
  match validateSettlement admissionId settledAtMs authority with
  | .error error => (.error error, s)
  | .ok () => s.transact (s.settle ⟨tenantKey authority, admissionId⟩ settlement settledAtMs)

end SqliteGovernorState

/-! ## Runs -/

/-- A dispatch governor of either kind. -/
inductive DispatchGovernor where
  | memory (state : MemoryState)
  | sqlite (state : SqliteGovernorState)

inductive GovernorCall where
  | admitAs (request : EffectDispatchAdmissionRequest) (authority : AuthorityContext)
  | settle (admissionId : EffectLeaseId) (settlement : EffectDispatchSettlement)
      (settledAtMs : UInt64) (authority : AuthorityContext)
deriving DecidableEq

/-- What a call did: a grant made on a lane under a policy, or a settlement of one
recorded. -/
inductive DispatchEvent where
  | granted (lane : LaneKey) (policy : EffectDispatchGovernorPolicy) (admissionId : EffectLeaseId)
      (atMs : UInt64) (decision : EffectDispatchAdmissionDecision)
  | settled (lane : LaneKey) (admissionId : EffectLeaseId)
deriving DecidableEq

/-- What is read of a governor of either kind. -/
structure Book where
  lanes : LaneKey → Option LaneState
  admissions : AdmissionKey → Option AdmissionRecord

def MemoryState.book (state : MemoryState) : Book :=
  ⟨fun key => state.lanes[key]?, fun key => state.admissions[key]?⟩

def SqliteGovernorState.book (s : SqliteGovernorState) : Book where
  lanes key := s.lanes[key]?.map (·.state)
  admissions key :=
    s.admissions[key]?.map fun row => { row.admission with settlement := row.settlement }

/-- The grant that the reply to an admission stands for, when it is not read
back from a retained admission. -/
def grantsOf (request : EffectDispatchAdmissionRequest) (tenantId : String)
    (reply : Except HarnessError EffectDispatchAdmissionDecision) (retained : Bool) :
    List DispatchEvent :=
  match reply with
  | .error _ => []
  | .ok decision =>
    if decision.granted && !retained then
      [.granted (laneKey request.operation request.policy tenantId) request.policy
        request.admissionId request.admittedAtMs decision]
    else []

/-- The settlement that the reply to a call stands for, when there was none. -/
def settlesOf (key : AdmissionKey) (before : Option AdmissionRecord)
    (reply : Except HarnessError Unit) : List DispatchEvent :=
  match before, reply with
  | some record, .ok () =>
    if record.settlement.isNone then
      [.settled (laneKey record.operation record.policy key.tenantId) key.admissionId]
    else []
  | _, _ => []

namespace DispatchGovernor

/-- A governor that was just created. -/
def Fresh (g : DispatchGovernor) : Prop :=
  g = .memory .empty ∨ g = .sqlite .empty

def book : DispatchGovernor → Book
  | memory state => state.book
  | sqlite state => state.book

/-- Whether an admission under a key is still retained at a time. -/
def retains (g : DispatchGovernor) (key : AdmissionKey) (atMs : UInt64) : Bool :=
  match g with
  | memory state => (state.prune atMs).admissions.contains key
  | sqlite state =>
    match state.prune atMs with
    | .ok state => state.admissions.contains key
    | .error _ => false

def admitAs (g : DispatchGovernor) (request : EffectDispatchAdmissionRequest)
    (authority : AuthorityContext) :
    Except HarnessError EffectDispatchAdmissionDecision × DispatchGovernor :=
  match g with
  | memory state => (state.admitAs request authority).map id memory
  | sqlite state => (state.admitAs request authority).map id sqlite

def settleAs (g : DispatchGovernor) (admissionId : EffectLeaseId)
    (settlement : EffectDispatchSettlement) (settledAtMs : UInt64) (authority : AuthorityContext) :
    Except HarnessError Unit × DispatchGovernor :=
  match g with
  | memory state =>
    (state.settleAs admissionId settlement settledAtMs authority).map id memory
  | sqlite state =>
    (state.settleAs admissionId settlement settledAtMs authority).map id sqlite

/-- One call: the governor after it and what it did. -/
def step (g : DispatchGovernor) : GovernorCall → DispatchGovernor × List DispatchEvent
  | .admitAs request authority =>
    let (reply, next) := g.admitAs request authority
    let key : AdmissionKey := ⟨tenantKey authority, request.admissionId⟩
    (next, grantsOf request key.tenantId reply (g.retains key request.admittedAtMs))
  | .settle admissionId settlement settledAtMs authority =>
    let (reply, next) := g.settleAs admissionId settlement settledAtMs authority
    let key : AdmissionKey := ⟨tenantKey authority, admissionId⟩
    (next, settlesOf key (g.book.admissions key) reply)

/-- Calls one after the other. -/
def run (g : DispatchGovernor) : List GovernorCall → DispatchGovernor × List DispatchEvent
  | [] => (g, [])
  | call :: rest =>
    let (next, events) := g.step call
    let (last, later) := next.run rest
    (last, events ++ later)

theorem run_concat (g : DispatchGovernor) (calls : List GovernorCall) (call : GovernorCall) :
    g.run (calls ++ [call]) =
      (((g.run calls).1.step call).1, (g.run calls).2 ++ ((g.run calls).1.step call).2) := by
  induction calls generalizing g with
  | nil => simp [run]
  | cons first rest ih =>
    simp only [List.cons_append, run]
    rw [ih]
    simp only [List.append_assoc]

end DispatchGovernor

end YHarness.Effects

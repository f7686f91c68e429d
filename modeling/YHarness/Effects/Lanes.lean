/-
# YHarness.Effects.Lanes -- what admissions and settlements do to a lane

`Decides` and `Applies` say what `decide` and `apply_settlement` may do to one
lane, errors included, and `Book.Step` what a call may do to the lanes and the
retained admissions.  Both governors take only such steps (`step_logged`), so an
invariant of the steps is one of every run of either (`run_keeps`).
-/
import YHarness.Effects.GovernorStore
import YHarness.Lib.Ledger

namespace YHarness.Effects

open YHarness.Lib YHarness.Kernel

set_option autoImplicit false

theorem checkedAdd_eq_ok {a b sum : UInt64} {message : String} :
    checkedAdd a b message = .ok sum ↔ sum.toNat = a.toNat + b.toNat := by
  unfold checkedAdd
  split
  · rename_i fits
    rw [ok_eq_ok, ← UInt64.toNat_inj, UInt64.toNat_add, Nat.mod_eq_of_lt fits]
  · rename_i overflow
    constructor
    · nofun
    · intro total
      have small := sum.toNat_lt_size
      omega

namespace LaneState

/-! ## Observations -/

section Observe

variable (lane : LaneState) (now windowStarted : UInt64)

@[simp] theorem observe_policySha256 : (lane.observe now).policySha256 = lane.policySha256 := by
  unfold observe
  split <;> rfl

@[simp] theorem observe_lastObservedAtMs : (lane.observe now).lastObservedAtMs = now := by
  unfold observe
  split <;> rfl

@[simp] theorem observe_windowStartedAtMs :
    (lane.observe now).windowStartedAtMs = lane.windowStartedAtMs := by
  unfold observe
  split <;> rfl

@[simp] theorem observe_windowCount : (lane.observe now).windowCount = lane.windowCount := by
  unfold observe
  split <;> rfl

@[simp] theorem observe_consecutiveFailures :
    (lane.observe now).consecutiveFailures = lane.consecutiveFailures := by
  unfold observe
  split <;> rfl

@[simp] theorem observe_circuitEpoch : (lane.observe now).circuitEpoch = lane.circuitEpoch := by
  unfold observe
  split <;> rfl

@[simp] theorem observe_openUntilMs : (lane.observe now).openUntilMs = lane.openUntilMs := by
  unfold observe
  split <;> rfl

/-- The probe slot is kept until its lease is over. -/
theorem observe_slot :
    ((lane.observe now).probeAdmissionId = lane.probeAdmissionId ∧
      (lane.observe now).probeExpiresAtMs = lane.probeExpiresAtMs ∧
        ∀ deadline, lane.probeExpiresAtMs = some deadline → now < deadline) ∨
      ((lane.observe now).probeAdmissionId = none ∧ (lane.observe now).probeExpiresAtMs = none ∧
        ∃ deadline, lane.probeExpiresAtMs = some deadline ∧ deadline ≤ now) := by
  unfold observe
  cases held : lane.probeExpiresAtMs with
  | none => exact .inl ⟨rfl, rfl, nofun⟩
  | some deadline =>
    by_cases ended : deadline ≤ now
    · rw [Option.any_some, decide_eq_true ended]
      exact .inr ⟨rfl, rfl, deadline, rfl, ended⟩
    · rw [Option.any_some, decide_eq_false ended]
      refine .inl ⟨rfl, rfl, ?_⟩
      rintro _ ⟨⟩
      exact UInt64.not_le.1 ended

/-- Entering a window changes the window only. -/
theorem enterWindow_eq : ∃ count, lane.enterWindow windowStarted =
    { lane with windowStartedAtMs := windowStarted, windowCount := count } ∧
      (count = lane.windowCount ∧ windowStarted = lane.windowStartedAtMs ∨
        count = 0 ∧ windowStarted ≠ lane.windowStartedAtMs) := by
  unfold enterWindow
  split
  · rename_i same
    subst same
    exact ⟨lane.windowCount, rfl, .inl ⟨rfl, rfl⟩⟩
  · rename_i other
    exact ⟨0, rfl, .inr ⟨rfl, Ne.symm other⟩⟩

end Observe

/-! ## One decision -/

/-- The lane in the window of a request. -/
def inWindow (lane : LaneState) (request : ValidatedAdmission) : LaneState :=
  (lane.observe request.admittedAtMs).enterWindow
    (fixedWindowStart request.admittedAtMs request.policy.windowMs)

/-- What `decide` may do: the decision, when there is no error, and the lane. -/
inductive Decides (lane : LaneState) (request : ValidatedAdmission) :
    Option EffectDispatchAdmissionDecision → LaneState → Prop
  | late : Decides lane request none lane
  | held {openUntil : UInt64} {decision : Option EffectDispatchAdmissionDecision}
      (onTime : lane.lastObservedAtMs ≤ request.admittedAtMs)
      (opened : lane.openUntilMs = some openUntil)
      (denied : ∀ d, decision = some d → d.granted = false) :
      Decides lane request decision (lane.observe request.admittedAtMs)
  | probe {openUntil probeUntil : UInt64} (onTime : lane.lastObservedAtMs ≤ request.admittedAtMs)
      (opened : lane.openUntilMs = some openUntil) (ended : openUntil ≤ request.admittedAtMs)
      (free : (lane.observe request.admittedAtMs).probeExpiresAtMs = none)
      (lease : probeUntil.toNat =
        request.admittedAtMs.toNat + request.policy.probeLeaseMs.toNat) :
      Decides lane request (some .allowProbe)
        { lane.observe request.admittedAtMs with
          probeAdmissionId := some request.admissionId
          probeExpiresAtMs := some probeUntil }
  | full {decision : Option EffectDispatchAdmissionDecision}
      (onTime : lane.lastObservedAtMs ≤ request.admittedAtMs) (closed : lane.openUntilMs = none)
      (denied : ∀ d, decision = some d → d.granted = false) :
      Decides lane request decision (lane.inWindow request)
  | allow (onTime : lane.lastObservedAtMs ≤ request.admittedAtMs)
      (closed : lane.openUntilMs = none)
      (room : (lane.inWindow request).windowCount.toNat <
        request.policy.maxDispatchesPerWindow.toNat)
      (fits : (lane.inWindow request).windowCount.toNat + 1 < UInt32.size) :
      Decides lane request (some .allow)
        { lane.inWindow request with windowCount := (lane.inWindow request).windowCount + 1 }

theorem decide_decides (lane : LaneState) (request : ValidatedAdmission) :
    Decides lane request ((lane.decide request).1.toOption.map (·.1)) (lane.decide request).2 ∧
      ∀ decision epoch, (lane.decide request).1 = .ok (decision, epoch) →
        epoch = lane.circuitEpoch := by
  unfold LaneState.decide
  split
  · exact ⟨.late, nofun⟩
  · rename_i notLate
    have onTime := UInt64.not_lt.1 notLate
    dsimp only
    rw [observe_openUntilMs]
    split
    · rename_i openUntil opened
      unfold decideOpen
      split
      · refine ⟨.held onTime opened ?_, ?_⟩
        · rintro _ ⟨⟩
          rfl
        · rintro _ _ ⟨⟩
          exact observe_circuitEpoch lane _
      · rename_i notBefore
        have ended := UInt64.not_lt.1 notBefore
        split
        · refine ⟨.held onTime opened ?_, ?_⟩
          · rintro _ ⟨⟩
            rfl
          · rintro _ _ ⟨⟩
            exact observe_circuitEpoch lane _
        · rename_i free
          split
          · exact ⟨.held onTime opened nofun, nofun⟩
          · rename_i probeUntil lease
            refine ⟨.probe onTime opened ended free (checkedAdd_eq_ok.1 lease), ?_⟩
            rintro _ _ ⟨⟩
            exact observe_circuitEpoch lane _
    · rename_i closed
      have epoch : (lane.inWindow request).circuitEpoch = lane.circuitEpoch := by
        obtain ⟨count, window, _⟩ := enterWindow_eq (lane.observe request.admittedAtMs)
          (fixedWindowStart request.admittedAtMs request.policy.windowMs)
        rw [inWindow, window]
        exact observe_circuitEpoch lane _
      show Decides lane request (((lane.inWindow request).decideClosed request).1.toOption.map (·.1))
          ((lane.inWindow request).decideClosed request).2 ∧
        ∀ decision epoch, ((lane.inWindow request).decideClosed request).1 = .ok (decision, epoch) →
          epoch = lane.circuitEpoch
      unfold decideClosed
      split
      · cases retry : checkedAdd (lane.inWindow request).windowStartedAtMs request.policy.windowMs
            "rate-limit retry time overflow" with
        | error error => exact ⟨.full onTime closed nofun, nofun⟩
        | ok retryAtMs =>
          refine ⟨.full onTime closed ?_, ?_⟩
          · rintro _ ⟨⟩
            rfl
          · rintro _ _ ⟨⟩
            exact epoch
      · rename_i room
        split
        · rename_i fits
          refine ⟨.allow onTime closed ?_ fits, ?_⟩
          · rwa [UInt32.not_le, UInt32.lt_iff_toNat_lt] at room
          · rintro _ _ ⟨⟩
            exact epoch
        · exact ⟨.full onTime closed nofun, nofun⟩

/-! ## One settlement -/

/-- The lane once a settlement at a time is heard. -/
def hear (lane : LaneState) (settledAtMs : UInt64) : LaneState :=
  { lane with lastObservedAtMs := max settledAtMs lane.lastObservedAtMs }

theorem le_hear (lane : LaneState) (settledAtMs : UInt64) :
    lane.lastObservedAtMs ≤ (lane.hear settledAtMs).lastObservedAtMs := by
  show _ ≤ if settledAtMs ≤ lane.lastObservedAtMs then lane.lastObservedAtMs else settledAtMs
  split
  · exact UInt64.le_refl _
  · rename_i later
    exact UInt64.le_of_lt (UInt64.not_le.1 later)

/-- A failure of a normal admission of the current epoch would open the circuit,
but under no further epoch or until no further time. -/
def cannotOpen (lane : LaneState) (record : AdmissionRecord) (settledAtMs : UInt64) : Bool :=
  record.circuitEpoch == lane.circuitEpoch && record.decision == .allow &&
    Decidable.decide
      (record.policy.failureThreshold.toNat ≤ lane.consecutiveFailures.toNat + 1) &&
    (Decidable.decide (UInt64.size ≤ lane.circuitEpoch.toNat + 1) ||
      Decidable.decide (UInt64.size ≤
        (max settledAtMs lane.lastObservedAtMs).toNat + record.policy.openDurationMs.toNat))

/-- What `apply_settlement` may do to a lane: whether it succeeds, and the lane. -/
inductive Applies (lane : LaneState) (admissionId : EffectLeaseId) (record : AdmissionRecord)
    (settledAtMs : UInt64) : EffectDispatchSettlement → Bool → LaneState → Prop
  | ignored {settlement : EffectDispatchSettlement}
      (ignores : lane.ignores admissionId record = true) :
      Applies lane admissionId record settledAtMs settlement true lane
  | closed (heard : lane.ignores admissionId record = false)
      (probe : record.decision = .allowProbe) :
      Applies lane admissionId record settledAtMs .healthy true
        { lane.hear settledAtMs with
          openUntilMs := none
          probeAdmissionId := none
          probeExpiresAtMs := none
          consecutiveFailures := 0 }
  | reopened {openUntil : UInt64} (heard : lane.ignores admissionId record = false)
      (probe : record.decision = .allowProbe) (epoch : lane.circuitEpoch.toNat + 1 < UInt64.size)
      (ends : openUntil.toNat =
        (max settledAtMs lane.lastObservedAtMs).toNat + record.policy.openDurationMs.toNat) :
      Applies lane admissionId record settledAtMs .availabilityFailure true
        { lane.hear settledAtMs with
          circuitEpoch := lane.circuitEpoch + 1
          openUntilMs := some openUntil
          probeAdmissionId := none
          probeExpiresAtMs := none
          consecutiveFailures := record.policy.failureThreshold }
  | wedged {epoch : UInt64} (heard : lane.ignores admissionId record = false)
      (probe : record.decision = .allowProbe)
      (later : epoch = lane.circuitEpoch ∨ epoch.toNat = lane.circuitEpoch.toNat + 1) :
      Applies lane admissionId record settledAtMs .availabilityFailure false
        { lane.hear settledAtMs with circuitEpoch := epoch }
  | freed (heard : lane.ignores admissionId record = false)
      (probe : record.decision = .allowProbe) :
      Applies lane admissionId record settledAtMs .abandoned true
        { lane.hear settledAtMs with probeAdmissionId := none, probeExpiresAtMs := none }
  | healthy (heard : lane.ignores admissionId record = false)
      (normal : record.decision = .allow) :
      Applies lane admissionId record settledAtMs .healthy true
        { lane.hear settledAtMs with consecutiveFailures := 0 }
  | abandoned (heard : lane.ignores admissionId record = false)
      (normal : record.decision = .allow) :
      Applies lane admissionId record settledAtMs .abandoned true (lane.hear settledAtMs)
  | counted {failures : UInt32} (heard : lane.ignores admissionId record = false)
      (normal : record.decision = .allow)
      (count : failures.toNat = lane.consecutiveFailures.toNat + 1)
      (below : failures.toNat < record.policy.failureThreshold.toNat) :
      Applies lane admissionId record settledAtMs .availabilityFailure true
        { lane.hear settledAtMs with consecutiveFailures := failures }
  | opened {failures : UInt32} {openUntil : UInt64}
      (heard : lane.ignores admissionId record = false) (normal : record.decision = .allow)
      (count : failures.toNat = lane.consecutiveFailures.toNat + 1)
      (epoch : lane.circuitEpoch.toNat + 1 < UInt64.size)
      (ends : openUntil.toNat =
        (max settledAtMs lane.lastObservedAtMs).toNat + record.policy.openDurationMs.toNat) :
      Applies lane admissionId record settledAtMs .availabilityFailure true
        { lane.hear settledAtMs with
          circuitEpoch := lane.circuitEpoch + 1
          openUntilMs := some openUntil
          probeAdmissionId := none
          probeExpiresAtMs := none
          consecutiveFailures := failures }
  | uncounted (heard : lane.ignores admissionId record = false)
      (normal : record.decision = .allow) :
      Applies lane admissionId record settledAtMs .availabilityFailure false
        (lane.hear settledAtMs)
  | stranded {failures : UInt32} {epoch : UInt64}
      (heard : lane.ignores admissionId record = false) (normal : record.decision = .allow)
      (cannot : lane.cannotOpen record settledAtMs = true) :
      Applies lane admissionId record settledAtMs .availabilityFailure false
        { lane.hear settledAtMs with circuitEpoch := epoch, consecutiveFailures := failures }

variable {record : AdmissionRecord}

/-- A settlement that is heard is one of the current epoch, and a probe that is
heard holds the slot. -/
theorem ignores_eq_false {lane : LaneState} {admissionId : EffectLeaseId}
    (heard : lane.ignores admissionId record = false) :
    record.circuitEpoch = lane.circuitEpoch ∧
      (record.decision = .allowProbe → lane.probeAdmissionId = some admissionId) := by
  rw [ignores, Bool.or_eq_false_iff, bne_eq_false_iff_eq, Bool.and_eq_false_iff,
    beq_eq_false_iff_ne, bne_eq_false_iff_eq] at heard
  obtain ⟨epoch, normal | slot⟩ := heard
  · exact ⟨epoch, fun probe => absurd probe normal⟩
  · exact ⟨epoch, fun _ => slot⟩

theorem applySettlement_applies (lane : LaneState) (admissionId : EffectLeaseId)
    (settlement : EffectDispatchSettlement) (settledAtMs : UInt64)
    (granted : record.decision.granted = true) :
    Applies lane admissionId record settledAtMs settlement
      (lane.applySettlement admissionId record settlement settledAtMs).1.isOk
      (lane.applySettlement admissionId record settlement settledAtMs).2 := by
  unfold applySettlement
  split
  · rename_i ignores
    exact .ignored ignores
  · rename_i heard
    rw [Bool.not_eq_true] at heard
    dsimp only
    split
    · rename_i probe
      unfold settleProbe
      cases settlement with
      | healthy => exact .closed heard probe
      | abandoned => exact .freed heard probe
      | availabilityFailure =>
        dsimp only
        unfold openCircuit
        split
        · rename_i error lane' opened
          split at opened
          · rename_i room
            dsimp only at opened room
            split at opened
            · cases opened
              refine .wedged heard probe (.inr ?_)
              show (lane.circuitEpoch + 1).toNat = _
              rw [UInt64.toNat_add]
              exact Nat.mod_eq_of_lt room
            · cases opened
          · cases opened
            exact .wedged heard probe (.inl rfl)
        · rename_i lane' opened
          split at opened
          · rename_i room
            split at opened
            · cases opened
            · rename_i openUntil ends
              cases opened
              exact .reopened heard probe room (checkedAdd_eq_ok.1 ends)
          · cases opened
    · rename_i notProbe
      have normal : record.decision = .allow := by
        cases decision : record.decision with
        | allow => rfl
        | allowProbe => exact absurd decision notProbe
        | rateLimited => rw [decision] at granted; cases granted
        | circuitOpen => rw [decision] at granted; cases granted
      unfold settleAllowed
      cases settlement with
      | healthy => exact .healthy heard normal
      | abandoned => exact .abandoned heard normal
      | availabilityFailure =>
        dsimp only
        split
        · rename_i fits
          have count : (lane.consecutiveFailures + 1).toNat =
              lane.consecutiveFailures.toNat + 1 := by
            rw [UInt32.toNat_add]
            exact Nat.mod_eq_of_lt fits
          split
          · rename_i reached
            rw [UInt32.le_iff_toNat_le, count] at reached
            unfold openCircuit
            split
            · rename_i room
              dsimp only at room ⊢
              split
              · rename_i error ends
                refine .stranded heard normal ?_
                have late : UInt64.size ≤ (max settledAtMs lane.lastObservedAtMs).toNat +
                    record.policy.openDurationMs.toNat := by
                  unfold checkedAdd at ends
                  split at ends
                  · cases ends
                  · rename_i overflow
                    exact not_lt.1 overflow
                rw [cannotOpen, (ignores_eq_false heard).1, normal]
                simp [reached, late]
              · rename_i openUntil ends
                exact .opened heard normal count room (checkedAdd_eq_ok.1 ends)
            · rename_i last
              refine .stranded heard normal ?_
              rw [cannotOpen, (ignores_eq_false heard).1, normal]
              simp [reached, not_lt.1 last]
          · rename_i below
            rw [UInt32.le_iff_toNat_le, not_le] at below
            exact .counted heard normal count below
        · exact .uncounted heard normal

end LaneState

/-! ## Steps of a book -/

namespace Book

def empty : Book :=
  ⟨fun _ => none, fun _ => none⟩

def setLane (b : Book) (key : LaneKey) (lane : LaneState) : Book :=
  { b with lanes := Function.update b.lanes key (some lane) }

def setAdmission (b : Book) (key : AdmissionKey) (record : AdmissionRecord) : Book :=
  { b with admissions := Function.update b.admissions key (some record) }

section Writes

variable (b : Book)

@[simp] theorem lanes_setLane (key : LaneKey) (lane : LaneState) :
    (b.setLane key lane).lanes key = some lane :=
  Function.update_self ..

theorem lanes_setLane_of_ne {key key' : LaneKey} (lane : LaneState) (ne : key' ≠ key) :
    (b.setLane key lane).lanes key' = b.lanes key' :=
  Function.update_of_ne ne ..

@[simp] theorem lanes_setAdmission (key : AdmissionKey) (record : AdmissionRecord) :
    (b.setAdmission key record).lanes = b.lanes := rfl

@[simp] theorem admissions_setAdmission (key : AdmissionKey) (record : AdmissionRecord) :
    (b.setAdmission key record).admissions key = some record :=
  Function.update_self ..

theorem admissions_setAdmission_of_ne {key key' : AdmissionKey} (record : AdmissionRecord)
    (ne : key' ≠ key) : (b.setAdmission key record).admissions key' = b.admissions key' :=
  Function.update_of_ne ne ..

end Writes

/-- The lane that decides a request: a new one when there was none. -/
def laneFor (b : Book) (request : ValidatedAdmission) : LaneState :=
  (b.lanes request.lane).getD (initialLane request)

/-- Some admissions are forgotten. -/
structure Forgets (b b' : Book) : Prop where
  lanes : b'.lanes = b.lanes
  fewer : ∀ key record, b'.admissions key = some record → b.admissions key = some record

theorem Forgets.refl (b : Book) : b.Forgets b :=
  ⟨rfl, fun _ _ => id⟩

theorem Forgets.laneFor {b b' : Book} (forgets : b.Forgets b') (request : ValidatedAdmission) :
    b'.laneFor request = b.laneFor request := by
  rw [Book.laneFor, forgets.lanes]
  rfl

/-- What a call may do: nothing but forget, take note of a request, admit it,
record a settlement, or fail after a lane was written.  Only a fault strands a
lane. -/
inductive Step [Sha256] (fault : Prop) : Book → GovernorCall → List DispatchEvent → Book → Prop
  | idle {b b' : Book} {call : GovernorCall} (forgets : b.Forgets b') : Step fault b call [] b'
  | note {b b' : Book} {request : EffectDispatchAdmissionRequest} {authority : AuthorityContext}
      {validated : ValidatedAdmission} {lane : LaneState}
      {decision : Option EffectDispatchAdmissionDecision} (forgets : b.Forgets b')
      (created : ValidatedAdmission.new request authority = .ok validated)
      (digest : (b'.laneFor validated).policySha256 = validated.policySha256)
      (decides : (b'.laneFor validated).Decides validated decision lane) :
      Step fault b (.admitAs request authority) [] (b'.setLane validated.lane lane)
  | admitAs {b b' : Book} {request : EffectDispatchAdmissionRequest} {authority : AuthorityContext}
      {validated : ValidatedAdmission} {lane : LaneState}
      {decision : EffectDispatchAdmissionDecision} {record : AdmissionRecord}
      (forgets : b.Forgets b')
      (created : ValidatedAdmission.new request authority = .ok validated)
      (digest : (b'.laneFor validated).policySha256 = validated.policySha256)
      (decides : (b'.laneFor validated).Decides validated (some decision) lane)
      (made : admissionRecord validated (b'.laneFor validated).circuitEpoch decision =
        .ok record) :
      Step fault b (.admitAs request authority)
        (if decision.granted then
          [.granted validated.lane validated.policy validated.admissionId validated.admittedAtMs
            decision]
        else [])
        ((b'.setLane validated.lane lane).setAdmission validated.key record)
  | settle {b : Book} {admissionId : EffectLeaseId} {settlement : EffectDispatchSettlement}
      {settledAtMs : UInt64} {authority : AuthorityContext} {record : AdmissionRecord}
      {lane lane' : LaneState} (found : b.admissions ⟨tenantKey authority, admissionId⟩ = some record)
      (granted : record.decision.granted = true)
      (here : b.lanes (laneKey record.operation record.policy (tenantKey authority)) = some lane)
      (applies : lane.Applies admissionId record settledAtMs settlement true lane') :
      Step fault b (.settle admissionId settlement settledAtMs authority)
        [.settled (laneKey record.operation record.policy (tenantKey authority)) admissionId]
        ((b.setLane (laneKey record.operation record.policy (tenantKey authority)) lane').setAdmission
          ⟨tenantKey authority, admissionId⟩ { record with settlement := some settlement })
  | spoil {b : Book} {admissionId : EffectLeaseId} {settlement : EffectDispatchSettlement}
      {settledAtMs : UInt64} {authority : AuthorityContext} {record : AdmissionRecord}
      {lane lane' : LaneState} (found : b.admissions ⟨tenantKey authority, admissionId⟩ = some record)
      (granted : record.decision.granted = true)
      (here : b.lanes (laneKey record.operation record.policy (tenantKey authority)) = some lane)
      (applies : lane.Applies admissionId record settledAtMs settlement false lane')
      (spared : settlement = .availabilityFailure → lane.cannotOpen record settledAtMs = true →
        fault) :
      Step fault b (.settle admissionId settlement settledAtMs authority) []
        (b.setLane (laneKey record.operation record.policy (tenantKey authority)) lane')

end Book

/-! ## Requests of known policies -/

variable [Sha256]

/-- The ranges of a valid policy. -/
structure EffectDispatchGovernorPolicy.InRange (policy : EffectDispatchGovernorPolicy) : Prop where
  window : 0 < policy.windowMs.toNat
  threshold : 0 < policy.failureThreshold.toNat
  threshold_le : policy.failureThreshold.toNat ≤ maxFailureThreshold
  openDuration : 0 < policy.openDurationMs.toNat
  probeLease : 0 < policy.probeLeaseMs.toNat

omit [Sha256] in
theorem validateRange_eq_ok {field : String} {low high value : Nat} :
    validateRange field low high value = .ok () ↔ low ≤ value ∧ value ≤ high := by
  rw [validateRange, rejectIf_eq_ok, Bool.or_eq_false_iff, decide_eq_false_iff_not,
    decide_eq_false_iff_not, not_lt, not_lt]

theorem EffectDispatchGovernorPolicy.inRange {policy : EffectDispatchGovernorPolicy}
    (valid : policy.validate = .ok ()) : policy.InRange := by
  iterate 3 replace valid := rest_ok valid
  obtain ⟨window, valid⟩ := seq_eq_ok.1 valid
  obtain ⟨threshold, valid⟩ := seq_eq_ok.1 valid
  obtain ⟨openDuration, valid⟩ := seq_eq_ok.1 valid
  obtain ⟨probeLease, _⟩ := seq_eq_ok.1 valid
  rw [validateRange_eq_ok] at window threshold openDuration probeLease
  exact ⟨window.1, threshold.1, threshold.2, openDuration.1, probeLease.1⟩

/-- SHA-256 tells the given policies apart. -/
def DigestsApart (known : EffectDispatchGovernorPolicy → Prop) : Prop :=
  ∀ p q, known p → known q →
    Sha256.digest (.json p.toJson) = Sha256.digest (.json q.toJson) → p.toJson = q.toJson

variable {known : EffectDispatchGovernorPolicy → Prop} {request : EffectDispatchAdmissionRequest}
  {validated : ValidatedAdmission} {authority : AuthorityContext}

theorem DigestsApart.eq (apart : DigestsApart known) {p q : EffectDispatchGovernorPolicy}
    (known_p : known p) (known_q : known q) {digest : String}
    (digest_p : policyDigest p = .ok digest) (digest_q : policyDigest q = .ok digest) : p = q := by
  replace digest_p := rest_ok digest_p
  replace digest_q := rest_ok digest_q
  have same := (Except.ok.inj digest_p).trans (Except.ok.inj digest_q).symm
  exact EffectDispatchGovernorPolicy.toJson_injective (apart p q known_p known_q same)

/-- The policies that calls request. -/
def requested (calls : List GovernorCall) (policy : EffectDispatchGovernorPolicy) : Prop :=
  ∃ request authority, .admitAs request authority ∈ calls ∧ request.policy = policy

/-- The policy that a call requests is known. -/
def GovernorCall.Requests (known : EffectDispatchGovernorPolicy → Prop) : GovernorCall → Prop
  | .admitAs request _ => known request.policy
  | .settle .. => True

omit [Sha256] in
theorem GovernorCall.requests_requested {calls : List GovernorCall} {call : GovernorCall}
    (member : call ∈ calls) : call.Requests (requested calls) := by
  cases call with
  | admitAs request authority => exact ⟨request, authority, member, rfl⟩
  | settle => trivial

/-- A validated admission of a known policy. -/
structure Asked (known : EffectDispatchGovernorPolicy → Prop) (request : ValidatedAdmission) :
    Prop where
  known : known request.policy
  valid : request.policy.validate = .ok ()
  time : validateApplicationTime request.admittedAtMs = .ok ()
  digest : policyDigest request.policy = .ok request.policySha256
  lane : request.lane =
    laneKey request.operation request.policy request.lane.tenantId

theorem Asked.time_ne {request : ValidatedAdmission} (asked : Asked known request) :
    request.admittedAtMs ≠ 0 := by
  have time := asked.time
  rwa [validateApplicationTime, rejectIf_eq_ok, beq_eq_false_iff_ne] at time

theorem ValidatedAdmission.new_asked
    (created : ValidatedAdmission.new request authority = .ok validated)
    (asked : known request.policy) : Asked known validated := by
  iterate 3 replace created := rest_ok created
  obtain ⟨valid, created⟩ := seq_eq_ok.1 created
  obtain ⟨time, created⟩ := seq_eq_ok.1 created
  obtain ⟨digest, digested, created⟩ := bind_eq_ok.1 created
  cases created
  exact ⟨asked, valid, time, digested, rfl⟩

/-- What a validated admission takes over from the request. -/
theorem ValidatedAdmission.new_fields
    (created : ValidatedAdmission.new request authority = .ok validated) :
    validated.policy = request.policy ∧ validated.admissionId = request.admissionId ∧
      validated.admittedAtMs = request.admittedAtMs ∧
      validated.lane = laneKey request.operation request.policy (tenantKey authority) := by
  iterate 5 replace created := rest_ok created
  obtain ⟨_, _, created⟩ := bind_eq_ok.1 created
  cases created
  exact ⟨rfl, rfl, rfl, rfl⟩

end YHarness.Effects

/-
# YHarness.Effects.Circuit -- the circuit breaker of a lane

A lane counts consecutive failures, opens its circuit when they reach the
threshold and lets a sole probe through once the circuit was open long enough.
`Guarded` is what a lane is at any time, `Holds` relates its probe slot to the
probes that were granted and not settled, and `Binds` relates it to the retained
admissions: a normal admission of the current epoch finds the circuit closed, so
no settlement of an older one can touch a circuit that opened since.

A settlement that fails half way strands the lane of a process-local governor:
`lane_stranded` leaves a closed circuit with as many failures as the threshold.
Runs without such a settlement keep every guarantee (`circuit_breaker`).
-/
import YHarness.Effects.GovernorSteps

namespace YHarness.Effects

open YHarness.Lib YHarness.Kernel

set_option autoImplicit false

/-! ## Probes in a log -/

/-- The lane that an event is about. -/
def DispatchEvent.lane : DispatchEvent → LaneKey
  | .granted lane .. => lane
  | .settled lane _ => lane

/-- The probes of a lane that are not settled after an event, with the end of
their leases. -/
def DispatchEvent.probes (key : LaneKey) (held : List (EffectLeaseId × Nat)) :
    DispatchEvent → List (EffectLeaseId × Nat)
  | .granted lane policy admissionId atMs .allowProbe =>
    if lane = key then (admissionId, atMs.toNat + policy.probeLeaseMs.toNat) :: held else held
  | .granted .. => held
  | .settled lane admissionId =>
    if lane = key then held.filter (fun probe => probe.1 != admissionId) else held

/-- The probes granted on a lane and not settled. -/
def openProbes (key : LaneKey) (log : List DispatchEvent) : List (EffectLeaseId × Nat) :=
  log.foldl (DispatchEvent.probes key) []

/-- The half-open probes outstanding at the last time that a lane observed. -/
def outstandingProbes (key : LaneKey) (lane : LaneState) (log : List DispatchEvent) :
    List (EffectLeaseId × Nat) :=
  (openProbes key log).filter fun probe => decide (lane.lastObservedAtMs.toNat < probe.2)

theorem openProbes_concat (key : LaneKey) (log : List DispatchEvent) (event : DispatchEvent) :
    openProbes key (log ++ [event]) = event.probes key (openProbes key log) := by
  rw [openProbes, List.foldl_append]
  rfl

theorem openProbes_other {key : LaneKey} {log did : List DispatchEvent}
    (other : ∀ event ∈ did, event.lane ≠ key) :
    openProbes key (log ++ did) = openProbes key log := by
  induction did using List.reverseRecOn with
  | nil => rw [List.append_nil]
  | append_singleton did event ih =>
    have elsewhere := other event (by simp)
    rw [← List.append_assoc, openProbes_concat,
      ih fun e member => other e (List.mem_append_left _ member)]
    cases event with
    | settled lane admissionId => exact if_neg elsewhere
    | granted lane policy admissionId atMs decision =>
      cases decision with
      | allowProbe => exact if_neg elsewhere
      | _ => rfl

namespace LaneState

/-! ## The probe slot -/

/-- A probe outstanding at the last observed time holds the slot, and there is at
most one. -/
structure Holds (lane : LaneState) (probes : List (EffectLeaseId × Nat)) : Prop where
  slot : ∀ probe ∈ probes, lane.lastObservedAtMs.toNat < probe.2 →
    lane.probeAdmissionId = some probe.1 ∧
      ∃ deadline, lane.probeExpiresAtMs = some deadline ∧ deadline.toNat = probe.2
  single : (probes.filter fun probe =>
    Decidable.decide (lane.lastObservedAtMs.toNat < probe.2)).length ≤ 1

namespace Holds

variable {lane lane' : LaneState} {probes fewer : List (EffectLeaseId × Nat)}

/-- Nothing is outstanding. -/
theorem free (ended : ∀ probe ∈ probes, probe.2 ≤ lane.lastObservedAtMs.toNat) :
    lane.Holds probes where
  slot probe member active := absurd active (not_lt.2 (ended probe member))
  single := by
    have empty : probes.filter (fun probe =>
        Decidable.decide (lane.lastObservedAtMs.toNat < probe.2)) = [] := by
      rw [List.filter_eq_nil_iff]
      intro probe member
      simpa using ended probe member
    rw [empty]
    exact Nat.zero_le _

/-- Time passes and the slot is kept, at least for the leases that still run. -/
theorem later (holds : lane.Holds probes) (later : lane.lastObservedAtMs ≤ lane'.lastObservedAtMs)
    (kept : ∀ deadline, lane.probeExpiresAtMs = some deadline →
      lane'.lastObservedAtMs < deadline →
        lane'.probeAdmissionId = lane.probeAdmissionId ∧
          lane'.probeExpiresAtMs = lane.probeExpiresAtMs) : lane'.Holds probes where
  slot probe member active := by
    have before : lane.lastObservedAtMs.toNat < probe.2 :=
      Nat.lt_of_le_of_lt (UInt64.le_iff_toNat_le.1 later) active
    obtain ⟨admission, deadline, lease, ends⟩ := holds.slot probe member before
    obtain ⟨same, sameLease⟩ := kept deadline lease (by rwa [UInt64.lt_iff_toNat_lt, ends])
    exact ⟨same.trans admission, deadline, sameLease.trans lease, ends⟩
  single := by
    refine le_trans (List.Sublist.length_le ?_) holds.single
    apply List.monotone_filter_right
    intro probe active
    simp only [decide_eq_true_eq] at active ⊢
    exact Nat.lt_of_le_of_lt (UInt64.le_iff_toNat_le.1 later) active

theorem sublist (holds : lane.Holds probes) (sub : List.Sublist fewer probes) :
    lane.Holds fewer where
  slot probe member := holds.slot probe (sub.subset member)
  single := (sub.filter _).length_le.trans holds.single

/-- The probe that holds the slot is settled. -/
theorem settle (holds : lane.Holds probes) {admissionId : EffectLeaseId}
    (slot : lane.probeAdmissionId = some admissionId)
    (later : lane.lastObservedAtMs ≤ lane'.lastObservedAtMs) :
    lane'.Holds (probes.filter fun probe => probe.1 != admissionId) := by
  apply free
  intro probe member
  obtain ⟨member, other⟩ := List.mem_filter.1 member
  by_contra active
  have before : lane.lastObservedAtMs.toNat < probe.2 :=
    Nat.lt_of_le_of_lt (UInt64.le_iff_toNat_le.1 later) (not_le.1 active)
  obtain ⟨admission, _⟩ := holds.slot probe member before
  rw [slot, Option.some.injEq] at admission
  rw [bne_iff_ne] at other
  exact other admission.symm

/-- Without a lease in the slot nothing is outstanding. -/
theorem ended (holds : lane.Holds probes) (free : lane.probeExpiresAtMs = none) :
    ∀ probe ∈ probes, probe.2 ≤ lane.lastObservedAtMs.toNat := by
  intro probe member
  by_contra active
  obtain ⟨_, deadline, lease, _⟩ := holds.slot probe member (not_le.1 active)
  rw [free] at lease
  cases lease

end Holds

/-! ## The circuit -/

section Guarded

variable [Sha256] {policy : EffectDispatchGovernorPolicy} {lane lane' : LaneState}

/-- What the lane of a policy is at any time. -/
structure Guarded (policy : EffectDispatchGovernorPolicy) (lane : LaneState) : Prop where
  digest : policyDigest policy = .ok lane.policySha256
  observed : lane.lastObservedAtMs ≠ 0
  epoch : lane.circuitEpoch ≠ 0
  capped : lane.consecutiveFailures.toNat ≤ policy.failureThreshold.toNat
  closed : lane.openUntilMs = none →
    lane.consecutiveFailures.toNat < policy.failureThreshold.toNat ∧
      lane.probeAdmissionId = none ∧ lane.probeExpiresAtMs = none
  paired : lane.probeAdmissionId.isSome = lane.probeExpiresAtMs.isSome
  opened : lane.openUntilMs ≠ some 0
  leased : lane.probeExpiresAtMs ≠ some 0

/-- **The lane is valid**, as a load from the SQLite store demands. -/
theorem Guarded.valid (guarded : lane.Guarded policy) (inRange : policy.InRange) :
    validateLaneState lane = .ok () := by
  obtain ⟨digest, observed, epoch, capped, _, paired, opened, leased⟩ := guarded
  replace digest := rest_ok digest
  have digest := Except.ok.inj digest
  have small := capped.trans inRange.threshold_le
  refine seq_eq_ok.2 ⟨?_, seq_eq_ok.2 ⟨?_, seq_eq_ok.2 ⟨?_, ?_⟩⟩⟩
  · rw [validatePolicyDigest, ← digest, Sha256.digest_lower]
    rfl
  · rw [rejectIf_eq_ok, beq_false_of_ne observed, beq_false_of_ne epoch,
      decide_eq_false (not_lt.2 small)]
    rfl
  · rw [rejectIf_eq_ok, paired, bne_self_eq_false]
  · rw [rejectIf_eq_ok, beq_false_of_ne opened, beq_false_of_ne leased]
    rfl

/-- Two lanes that differ in their windows only. -/
structure SameCircuit (lane lane' : LaneState) : Prop where
  policySha256 : lane'.policySha256 = lane.policySha256
  lastObservedAtMs : lane'.lastObservedAtMs = lane.lastObservedAtMs
  consecutiveFailures : lane'.consecutiveFailures = lane.consecutiveFailures
  circuitEpoch : lane'.circuitEpoch = lane.circuitEpoch
  openUntilMs : lane'.openUntilMs = lane.openUntilMs
  probeAdmissionId : lane'.probeAdmissionId = lane.probeAdmissionId
  probeExpiresAtMs : lane'.probeExpiresAtMs = lane.probeExpiresAtMs

theorem Guarded.same (guarded : lane.Guarded policy) (same : lane.SameCircuit lane') :
    lane'.Guarded policy := by
  obtain ⟨digest, observed, epoch, capped, closed, paired, opened, leased⟩ := guarded
  obtain ⟨policySha256, lastObserved, failures, circuitEpoch, openUntil, admission, lease⟩ := same
  rw [← policySha256] at digest
  rw [← lastObserved] at observed
  rw [← circuitEpoch] at epoch
  rw [← failures] at capped closed
  rw [← openUntil] at closed opened
  rw [← admission] at closed paired
  rw [← lease] at closed paired leased
  exact ⟨digest, observed, epoch, capped, closed, paired, opened, leased⟩

theorem Guarded.observe (guarded : lane.Guarded policy) {now : UInt64} (positive : now ≠ 0) :
    (lane.observe now).Guarded policy := by
  obtain ⟨digest, _, epoch, capped, closed, paired, opened, leased⟩ := guarded
  refine ⟨?_, ?_, ?_, ?_, ?_, ?_, ?_, ?_⟩
  · rwa [observe_policySha256]
  · rwa [observe_lastObservedAtMs]
  · rwa [observe_circuitEpoch]
  · rwa [observe_consecutiveFailures]
  · rw [observe_openUntilMs, observe_consecutiveFailures]
    intro shut
    obtain ⟨below, admission, lease⟩ := closed shut
    rcases observe_slot lane now with ⟨same, sameLease, _⟩ | ⟨none_held, none_lease, _⟩
    · exact ⟨below, same.trans admission, sameLease.trans lease⟩
    · exact ⟨below, none_held, none_lease⟩
  · rcases observe_slot lane now with ⟨same, sameLease, _⟩ | ⟨none_held, none_lease, _⟩
    · rw [same, sameLease, paired]
    · rw [none_held, none_lease]
      rfl
  · rwa [observe_openUntilMs]
  · rcases observe_slot lane now with ⟨_, sameLease, _⟩ | ⟨_, none_lease, _⟩
    · rwa [sameLease]
    · rw [none_lease]
      nofun

variable {request : ValidatedAdmission} {decision : Option EffectDispatchAdmissionDecision}
  {probes : List (EffectLeaseId × Nat)}

theorem initialLane_guarded (digest : policyDigest request.policy = .ok request.policySha256)
    (time : request.admittedAtMs ≠ 0) (inRange : request.policy.InRange) :
    (initialLane request).Guarded request.policy :=
  ⟨digest, time, show (1 : UInt64) ≠ 0 by decide, Nat.zero_le _,
    fun _ => ⟨inRange.threshold, rfl, rfl⟩, rfl, nofun, nofun⟩

/-! ## One decision -/

omit [Sha256] in
theorem inWindow_sameCircuit (lane : LaneState) (request : ValidatedAdmission) :
    (lane.observe request.admittedAtMs).SameCircuit (lane.inWindow request) := by
  obtain ⟨count, entered, _⟩ := enterWindow_eq (lane.observe request.admittedAtMs)
    (fixedWindowStart request.admittedAtMs request.policy.windowMs)
  rw [inWindow, entered]
  exact ⟨rfl, rfl, rfl, rfl, rfl, rfl, rfl⟩

omit [Sha256] in
/-- The circuit after a decision: nothing was observed, the time of the request
was, or a probe took the free slot of a circuit that was open long enough.  A
normal grant needs a closed circuit. -/
theorem Decides.circuit (decides : lane.Decides request decision lane') :
    (lane' = lane ∧ decision = none) ∨
      lane.lastObservedAtMs ≤ request.admittedAtMs ∧
        (((lane.observe request.admittedAtMs).SameCircuit lane' ∧ decision ≠ some .allowProbe ∧
            (decision = some .allow → lane.openUntilMs = none)) ∨
          decision = some .allowProbe ∧ ∃ openUntil probeUntil,
            lane.openUntilMs = some openUntil ∧ openUntil ≤ request.admittedAtMs ∧
              (lane.observe request.admittedAtMs).probeExpiresAtMs = none ∧
              probeUntil.toNat =
                request.admittedAtMs.toNat + request.policy.probeLeaseMs.toNat ∧
              lane' = { lane.observe request.admittedAtMs with
                probeAdmissionId := some request.admissionId
                probeExpiresAtMs := some probeUntil }) := by
  cases decides with
  | late => exact .inl ⟨rfl, rfl⟩
  | held onTime _ denied =>
    refine .inr ⟨onTime, .inl ⟨⟨rfl, rfl, rfl, rfl, rfl, rfl, rfl⟩, ?_, ?_⟩⟩
    · intro probe
      cases denied _ probe
    · intro allowed
      cases denied _ allowed
  | probe onTime opened ended free lease =>
    exact .inr ⟨onTime, .inr ⟨rfl, _, _, opened, ended, free, lease, rfl⟩⟩
  | full onTime closed denied =>
    refine .inr ⟨onTime, .inl ⟨inWindow_sameCircuit lane request, ?_, fun _ => closed⟩⟩
    intro probe
    cases denied _ probe
  | allow onTime closed =>
    obtain ⟨policySha256, observed, failures, epoch, openUntil, admission, lease⟩ :=
      inWindow_sameCircuit lane request
    exact .inr ⟨onTime, .inl ⟨⟨policySha256, observed, failures, epoch, openUntil, admission,
      lease⟩, nofun, fun _ => closed⟩⟩

omit [Sha256] in
/-- A grant waits for the open circuit. -/
theorem Decides.granted {decision : EffectDispatchAdmissionDecision}
    (decides : lane.Decides request (some decision) lane') (granted : decision.granted = true)
    {openUntil : UInt64} (opened : lane.openUntilMs = some openUntil) :
    openUntil ≤ request.admittedAtMs := by
  cases decides with
  | held _ _ denied =>
    rw [denied _ rfl] at granted
    cases granted
  | probe _ opened' ended =>
    rw [opened', Option.some.injEq] at opened
    rwa [← opened]
  | full _ _ denied =>
    rw [denied _ rfl] at granted
    cases granted
  | allow _ closed =>
    rw [closed] at opened
    cases opened

theorem Decides.guarded (decides : lane.Decides request decision lane')
    (guarded : lane.Guarded policy) (time : request.admittedAtMs ≠ 0) : lane'.Guarded policy := by
  rcases decides.circuit with ⟨rfl, _⟩ | ⟨_, ⟨same, _⟩ |
    ⟨_, openUntil, probeUntil, opened, _, _, lease, rfl⟩⟩
  · exact guarded
  · exact (guarded.observe time).same same
  · obtain ⟨digest, observed, epoch, capped, _, _, notZero, _⟩ := guarded.observe time
    refine ⟨digest, observed, epoch, capped, ?_, rfl, notZero, ?_⟩
    · intro closed
      rw [observe_openUntilMs, opened] at closed
      cases closed
    · intro zero
      rw [Option.some.inj zero, UInt64.toNat_zero] at lease
      apply time
      rw [← UInt64.toNat_inj, UInt64.toNat_zero]
      omega

omit [Sha256] in
theorem observe_holds (holds : lane.Holds probes) {now : UInt64}
    (onTime : lane.lastObservedAtMs ≤ now) : (lane.observe now).Holds probes := by
  apply holds.later
  · rwa [observe_lastObservedAtMs]
  · intro deadline lease active
    rw [observe_lastObservedAtMs] at active
    rcases observe_slot lane now with ⟨same, sameLease, _⟩ | ⟨_, _, deadline', lease', ended⟩
    · exact ⟨same, sameLease⟩
    · rw [lease, Option.some.injEq] at lease'
      rw [← lease'] at ended
      exact absurd active (UInt64.not_lt.2 ended)

omit [Sha256] in
/-- A probe is granted only when none is outstanding. -/
theorem Decides.holds (decides : lane.Decides request decision lane') (holds : lane.Holds probes) :
    lane'.Holds probes ∧ (decision = some .allowProbe → lane'.Holds
      ((request.admissionId, request.admittedAtMs.toNat + request.policy.probeLeaseMs.toNat) ::
        probes)) := by
  rcases decides.circuit with ⟨rfl, quiet⟩ | ⟨onTime, ⟨same, quiet, _⟩ |
    ⟨_, openUntil, probeUntil, opened, _, free, lease, rfl⟩⟩
  · refine ⟨holds, ?_⟩
    rw [quiet]
    nofun
  · refine ⟨?_, fun probe => absurd probe quiet⟩
    apply (observe_holds holds onTime).later
    · rw [same.lastObservedAtMs]
      exact UInt64.le_refl _
    · intro _ _ _
      exact ⟨same.probeAdmissionId, same.probeExpiresAtMs⟩
  · have ended := (observe_holds holds onTime).ended free
    refine ⟨.free ended, fun _ => ⟨?_, ?_⟩⟩
    · intro probe member active
      rcases List.mem_cons.1 member with rfl | earlier
      · exact ⟨rfl, probeUntil, rfl, lease⟩
      · exact absurd active (not_lt.2 (ended probe earlier))
    · have none_else : probes.filter (fun probe => Decidable.decide
          ((lane.observe request.admittedAtMs).lastObservedAtMs.toNat < probe.2)) = [] := by
        rw [List.filter_eq_nil_iff]
        intro probe member
        simpa using ended probe member
      rw [List.filter_cons]
      dsimp only
      rw [none_else]
      split <;> simp

/-! ## One settlement -/

/-- What a retained admission says of its lane: it was granted under the policy and
an epoch of the lane, and under an older one if it is a normal admission and the
circuit is open. -/
structure Binds (lane : LaneState) (record : AdmissionRecord) : Prop where
  digest : policyDigest record.policy = .ok lane.policySha256
  epoch : record.circuitEpoch ≤ lane.circuitEpoch
  opened : lane.openUntilMs ≠ none → record.decision = .allow →
    record.circuitEpoch < lane.circuitEpoch

/-- The epochs of a lane only grow, and with each circuit that opens. -/
structure Advances (lane lane' : LaneState) : Prop where
  policySha256 : lane'.policySha256 = lane.policySha256
  epoch : lane.circuitEpoch ≤ lane'.circuitEpoch
  opened : lane'.openUntilMs ≠ none → lane.openUntilMs ≠ none ∨
    lane.circuitEpoch < lane'.circuitEpoch

theorem Binds.advance {record : AdmissionRecord} (binds : lane.Binds record)
    (advances : lane.Advances lane') : lane'.Binds record where
  digest := by
    rw [advances.policySha256]
    exact binds.digest
  epoch := UInt64.le_trans binds.epoch advances.epoch
  opened open_now normal := by
    rcases advances.opened open_now with before | since
    · exact UInt64.lt_of_lt_of_le (binds.opened before normal) advances.epoch
    · exact UInt64.lt_of_le_of_lt binds.epoch since

omit [Sha256] in
theorem Decides.advances {request : ValidatedAdmission}
    {decision : Option EffectDispatchAdmissionDecision}
    (decides : lane.Decides request decision lane') : lane.Advances lane' := by
  rcases decides.circuit with ⟨rfl, _⟩ | ⟨_, ⟨same, _⟩ | ⟨_, _, _, _, _, _, _, rfl⟩⟩
  · exact ⟨rfl, UInt64.le_refl _, .inl⟩
  · refine ⟨?_, ?_, ?_⟩
    · rw [same.policySha256, observe_policySha256]
    · rw [same.circuitEpoch, observe_circuitEpoch]
      exact UInt64.le_refl _
    · rw [same.openUntilMs, observe_openUntilMs]
      exact .inl
  · refine ⟨?_, ?_, ?_⟩
    · exact observe_policySha256 lane _
    · show lane.circuitEpoch ≤ (lane.observe request.admittedAtMs).circuitEpoch
      rw [observe_circuitEpoch]
      exact UInt64.le_refl _
    · show (lane.observe request.admittedAtMs).openUntilMs ≠ none → _
      rw [observe_openUntilMs]
      exact .inl

section Settlement

variable {admissionId : EffectLeaseId} {record : AdmissionRecord} {settledAtMs : UInt64}
  {settlement : EffectDispatchSettlement} {done : Bool}

omit [Sha256] in
theorem next_epoch {epoch : UInt64} (room : epoch.toNat + 1 < UInt64.size) :
    (epoch + 1).toNat = epoch.toNat + 1 := by
  rw [UInt64.toNat_add]
  exact Nat.mod_eq_of_lt room

omit [Sha256] in
theorem Applies.advances
    (applies : lane.Applies admissionId record settledAtMs settlement done lane')
    (spared : done = false → settlement = .availabilityFailure →
      lane.cannotOpen record settledAtMs = false) :
    lane.Advances lane' := by
  have opens (room : lane.circuitEpoch.toNat + 1 < UInt64.size) :
      lane.circuitEpoch < lane.circuitEpoch + 1 := by
    rw [UInt64.lt_iff_toNat_lt, next_epoch room]
    exact Nat.lt_succ_self _
  cases applies with
  | closed => exact ⟨rfl, UInt64.le_refl _, nofun⟩
  | reopened _ _ room => exact ⟨rfl, UInt64.le_of_lt (opens room), fun _ => .inr (opens room)⟩
  | opened _ _ _ room => exact ⟨rfl, UInt64.le_of_lt (opens room), fun _ => .inr (opens room)⟩
  | wedged _ _ later =>
    refine ⟨rfl, ?_, .inl⟩
    rcases later with rfl | next
    · exact UInt64.le_refl _
    · show lane.circuitEpoch ≤ _
      rw [UInt64.le_iff_toNat_le, next]
      exact Nat.le_succ _
  | stranded _ _ cannot =>
    rw [spared rfl rfl] at cannot
    cases cannot
  | _ => exact ⟨rfl, UInt64.le_refl _, .inl⟩

omit [Sha256] in
/-- A settlement that is not heard does nothing. -/
theorem Applies.ignored_eq
    (applies : lane.Applies admissionId record settledAtMs settlement done lane')
    (unheard : lane.ignores admissionId record = true) : lane' = lane := by
  cases applies with
  | ignored => rfl
  | _ => simp_all

/-- A normal admission that is heard finds the circuit closed. -/
theorem Binds.closed (binds : lane.Binds record)
    (heard : lane.ignores admissionId record = false) (normal : record.decision = .allow) :
    lane.openUntilMs = none := by
  by_contra opened
  have older := binds.opened opened normal
  rw [(ignores_eq_false heard).1] at older
  exact absurd older (UInt64.lt_irrefl _)

omit [Sha256] in
theorem hear_positive (settledAtMs : UInt64) (positive : lane.lastObservedAtMs ≠ 0) :
    (lane.hear settledAtMs).lastObservedAtMs ≠ 0 := by
  intro zero
  have later := le_hear lane settledAtMs
  rw [zero] at later
  exact positive (UInt64.le_zero_iff.1 later)

theorem Applies.guarded
    (applies : lane.Applies admissionId record settledAtMs settlement done lane')
    (guarded : lane.Guarded record.policy) (inRange : record.policy.InRange)
    (binds : lane.Binds record)
    (spared : done = false → settlement = .availabilityFailure →
      lane.cannotOpen record settledAtMs = false) :
    lane'.Guarded record.policy := by
  have unchanged := guarded
  obtain ⟨digest, observed, epoch, capped, closed, paired, opened, leased⟩ := guarded
  have observed' := hear_positive settledAtMs observed
  have fresh_epoch (room : lane.circuitEpoch.toNat + 1 < UInt64.size) :
      lane.circuitEpoch + 1 ≠ 0 := by
    intro zero
    have next := next_epoch room
    rw [zero, UInt64.toNat_zero] at next
    omega
  have lasting {openUntil : UInt64} (ends : openUntil.toNat =
      (max settledAtMs lane.lastObservedAtMs).toNat + record.policy.openDurationMs.toNat) :
      some openUntil ≠ some 0 := by
    intro zero
    have long := inRange.openDuration
    rw [Option.some.inj zero, UInt64.toNat_zero] at ends
    omega
  cases applies with
  | ignored => exact unchanged
  | closed =>
    exact ⟨digest, observed', epoch, Nat.zero_le _, fun _ => ⟨inRange.threshold, rfl, rfl⟩, rfl,
      nofun, nofun⟩
  | reopened _ _ room ends =>
    exact ⟨digest, observed', fresh_epoch room, le_refl _, nofun, rfl, lasting ends, nofun⟩
  | wedged _ _ later =>
    refine ⟨digest, observed', ?_, capped, closed, paired, opened, leased⟩
    rcases later with rfl | next
    · exact epoch
    · rintro rfl
      rw [UInt64.toNat_zero] at next
      omega
  | freed =>
    exact ⟨digest, observed', epoch, capped, fun shut => ⟨(closed shut).1, rfl, rfl⟩, rfl, opened,
      nofun⟩
  | healthy =>
    exact ⟨digest, observed', epoch, Nat.zero_le _,
      fun shut => ⟨inRange.threshold, (closed shut).2⟩, paired, opened, leased⟩
  | abandoned => exact ⟨digest, observed', epoch, capped, closed, paired, opened, leased⟩
  | counted _ _ _ below =>
    exact ⟨digest, observed', epoch, below.le, fun shut => ⟨below, (closed shut).2⟩, paired,
      opened, leased⟩
  | opened heard normal count room ends =>
    have below := (closed (binds.closed heard normal)).1
    exact ⟨digest, observed', fresh_epoch room, count.trans_le below, nofun, rfl, lasting ends,
      nofun⟩
  | uncounted => exact ⟨digest, observed', epoch, capped, closed, paired, opened, leased⟩
  | stranded _ _ cannot =>
    rw [spared rfl rfl] at cannot
    cases cannot

/-- A settlement that is recorded takes its probe from those outstanding. -/
theorem Applies.holds {policy : EffectDispatchGovernorPolicy}
    {probes : List (EffectLeaseId × Nat)}
    (applies : lane.Applies admissionId record settledAtMs settlement done lane')
    (guarded : lane.Guarded policy) (binds : lane.Binds record) (holds : lane.Holds probes)
    (spared : done = false → settlement = .availabilityFailure →
      lane.cannotOpen record settledAtMs = false) :
    lane'.Holds (if done then probes.filter (fun probe => probe.1 != admissionId) else probes) := by
  have kept : (lane.hear settledAtMs).Holds probes :=
    holds.later (le_hear lane settledAtMs) fun _ _ _ => ⟨rfl, rfl⟩
  have taken (heard : lane.ignores admissionId record = false)
      (probe : record.decision = .allowProbe) {after : LaneState}
      (time : (lane.hear settledAtMs).lastObservedAtMs = after.lastObservedAtMs) :
      after.Holds (probes.filter fun probe => probe.1 != admissionId) :=
    holds.settle ((ignores_eq_false heard).2 probe) (time ▸ le_hear lane settledAtMs)
  cases applies with
  | ignored => exact holds.sublist List.filter_sublist
  | closed heard probe => exact taken heard probe rfl
  | reopened heard probe => exact taken heard probe rfl
  | freed heard probe => exact taken heard probe rfl
  | wedged => exact ⟨kept.slot, kept.single⟩
  | uncounted => exact kept
  | opened heard normal =>
    have shut := (guarded.closed (binds.closed heard normal)).2.2
    apply Holds.free
    intro probe member
    have ended := holds.ended shut probe (List.mem_filter.1 member).1
    exact ended.trans (UInt64.le_iff_toNat_le.1 (le_hear lane settledAtMs))
  | stranded _ _ cannot =>
    rw [spared rfl rfl] at cannot
    cases cannot
  | _ =>
    have fewer := kept.sublist (List.filter_sublist (p := fun probe => probe.1 != admissionId))
    exact ⟨fewer.slot, fewer.single⟩

end Settlement

end Guarded

end LaneState

/-! ## Runs -/

section Runs

variable [Sha256] {known : EffectDispatchGovernorPolicy → Prop}

/-- Every lane is guarded under its policy and holds the probes that were granted,
and every retained admission is bound to its lane. -/
structure Breaker (known : EffectDispatchGovernorPolicy → Prop) (b : Book)
    (log : List DispatchEvent) : Prop where
  absent : ∀ key, b.lanes key = none → openProbes key log = []
  lanes : ∀ key lane, b.lanes key = some lane → ∃ policy, known policy ∧ policy.InRange ∧
    lane.Guarded policy ∧ lane.Holds (openProbes key log)
  bound : ∀ key record, b.admissions key = some record → known record.policy ∧
    ∃ lane, b.lanes (laneKey record.operation record.policy key.tenantId) = some lane ∧
      lane.Binds record

namespace Breaker

variable {b : Book} {log did : List DispatchEvent}

theorem empty : Breaker known Book.empty [] where
  absent _ _ := rfl
  lanes _ _ := nofun
  bound _ _ := nofun

theorem forgets (breaker : Breaker known b log) {b' : Book} (forgets : b.Forgets b') :
    Breaker known b' log := by
  obtain ⟨absent, lanes, bound⟩ := breaker
  rw [← forgets.lanes] at absent lanes bound
  exact ⟨absent, lanes, fun key record found => bound key record (forgets.fewer key record found)⟩

variable {request : ValidatedAdmission} {lane : LaneState} {record : AdmissionRecord}

/-- A lane moves on, and only its own events are logged. -/
theorem setLane (breaker : Breaker known b log) {key : LaneKey}
    {policy : EffectDispatchGovernorPolicy} (known_policy : known policy) (inRange : policy.InRange)
    (guarded : lane.Guarded policy) (holds : lane.Holds (openProbes key (log ++ did)))
    (own : ∀ event ∈ did, event.lane = key)
    (advances : ∀ before, b.lanes key = some before → before.Advances lane) :
    Breaker known (b.setLane key lane) (log ++ did) where
  absent key' none_here := by
    by_cases same : key' = key
    · rw [same, Book.lanes_setLane] at none_here
      cases none_here
    · rw [Book.lanes_setLane_of_ne b lane same] at none_here
      rw [openProbes_other fun event member here => same (here.symm.trans (own event member))]
      exact breaker.absent key' none_here
  lanes key' lane' here := by
    by_cases same : key' = key
    · rw [same, Book.lanes_setLane] at here
      cases here
      rw [same]
      exact ⟨policy, known_policy, inRange, guarded, holds⟩
    · rw [Book.lanes_setLane_of_ne b lane same] at here
      rw [openProbes_other fun event member here => same (here.symm.trans (own event member))]
      exact breaker.lanes key' lane' here
  bound key' record found := by
    obtain ⟨known_record, before, here, binds⟩ := breaker.bound key' record found
    refine ⟨known_record, ?_⟩
    by_cases same : laneKey record.operation record.policy key'.tenantId = key
    · rw [same] at here ⊢
      exact ⟨lane, Book.lanes_setLane b key lane, binds.advance (advances before here)⟩
    · rw [Book.lanes_setLane_of_ne b lane same]
      exact ⟨before, here, binds⟩

theorem setAdmission (breaker : Breaker known b log) {key : AdmissionKey}
    (known_record : known record.policy)
    (here : b.lanes (laneKey record.operation record.policy key.tenantId) = some lane)
    (binds : lane.Binds record) : Breaker known (b.setAdmission key record) log where
  absent := breaker.absent
  lanes := breaker.lanes
  bound key' record' found := by
    by_cases same : key' = key
    · rw [same, Book.admissions_setAdmission] at found
      cases found
      rw [same]
      exact ⟨known_record, lane, here, binds⟩
    · rw [Book.admissions_setAdmission_of_ne b record same] at found
      exact breaker.bound key' record' found

/-- The lane that decides a request is guarded under the policy of the request. -/
theorem laneFor (breaker : Breaker known b log) (apart : DigestsApart known)
    (asked : Asked known request) (digest : (b.laneFor request).policySha256 = request.policySha256) :
    (b.laneFor request).Guarded request.policy ∧
      (b.laneFor request).Holds (openProbes request.lane log) := by
  unfold Book.laneFor at digest ⊢
  cases here : b.lanes request.lane with
  | none =>
    rw [breaker.absent request.lane here]
    exact ⟨LaneState.initialLane_guarded asked.digest asked.time_ne
      (EffectDispatchGovernorPolicy.inRange asked.valid), .free (by simp)⟩
  | some lane =>
    obtain ⟨policy, known_policy, _, guarded, holds⟩ := breaker.lanes request.lane lane here
    rw [here, Option.getD_some] at digest
    have held := guarded.digest
    rw [digest] at held
    obtain rfl := apart.eq known_policy asked.known held asked.digest
    exact ⟨guarded, holds⟩

/-- A decision moves the lane of its request, whether or not it is logged. -/
theorem decided (breaker : Breaker known b log) (apart : DigestsApart known)
    (asked : Asked known request) {decision : Option EffectDispatchAdmissionDecision}
    (digest : (b.laneFor request).policySha256 = request.policySha256)
    (decides : (b.laneFor request).Decides request decision lane)
    (logged : did = [] ∨ ∃ made, decision = some made ∧ did =
      [.granted request.lane request.policy request.admissionId request.admittedAtMs made]) :
    Breaker known (b.setLane request.lane lane) (log ++ did) := by
  obtain ⟨guarded, holds⟩ := breaker.laneFor apart asked digest
  obtain ⟨kept, probed⟩ := decides.holds holds
  refine breaker.setLane asked.known (EffectDispatchGovernorPolicy.inRange asked.valid)
    (decides.guarded guarded asked.time_ne) ?_ ?_ ?_
  · rcases logged with rfl | ⟨made, rfl, rfl⟩
    · rw [List.append_nil]
      exact kept
    · rw [openProbes_concat]
      cases made with
      | allowProbe =>
        rw [DispatchEvent.probes, if_pos rfl]
        exact probed rfl
      | _ => exact kept
  · intro event member
    rcases logged with rfl | ⟨made, _, rfl⟩
    · cases member
    · rw [List.mem_singleton.1 member]
      rfl
  · intro before here
    have same : b.laneFor request = before := by rw [Book.laneFor, here, Option.getD_some]
    rw [← same]
    exact decides.advances

/-- A request is admitted by its lane. -/
theorem admitted (breaker : Breaker known b log) (apart : DigestsApart known)
    (asked : Asked known request) {decision : EffectDispatchAdmissionDecision}
    (digest : (b.laneFor request).policySha256 = request.policySha256)
    (decides : (b.laneFor request).Decides request (some decision) lane)
    (made : admissionRecord request (b.laneFor request).circuitEpoch decision = .ok record)
    (logged : did = [] ∨ ∃ made, some decision = some made ∧ did =
      [.granted request.lane request.policy request.admissionId request.admittedAtMs made]) :
    Breaker known ((b.setLane request.lane lane).setAdmission request.key record) (log ++ did) := by
  obtain ⟨expiresAtMs, _, made⟩ := bind_eq_ok.1 made
  cases made
  have here : (b.setLane request.lane lane).lanes
      (laneKey request.operation request.policy request.key.tenantId) = some lane := by
    show (b.setLane request.lane lane).lanes
      (laneKey request.operation request.policy request.lane.tenantId) = some lane
    rw [← asked.lane]
    exact Book.lanes_setLane b request.lane lane
  refine (breaker.decided apart asked digest decides logged).setAdmission asked.known here
    ⟨?_, decides.advances.epoch, ?_⟩
  · show policyDigest request.policy = _
    rw [decides.advances.policySha256, digest]
    exact asked.digest
  · intro opened allowed
    rw [show decision = .allow from allowed] at decides
    rcases decides.circuit with ⟨_, none_made⟩ | ⟨_, ⟨same, _, shut⟩ | ⟨probe, _⟩⟩
    · cases none_made
    · rw [same.openUntilMs, LaneState.observe_openUntilMs] at opened
      exact absurd (shut rfl) opened
    · cases probe

/-- A settlement moves the lane of its admission. -/
theorem settled (breaker : Breaker known b log) (apart : DigestsApart known) {key : AdmissionKey}
    {lane lane' : LaneState} {settlement : EffectDispatchSettlement} {settledAtMs : UInt64}
    {done : Bool} (found : b.admissions key = some record)
    (here : b.lanes (laneKey record.operation record.policy key.tenantId) = some lane)
    (applies : lane.Applies key.admissionId record settledAtMs settlement done lane')
    (spared : done = false → settlement = .availabilityFailure →
      lane.cannotOpen record settledAtMs = false) (logged : did = if done then
      [.settled (laneKey record.operation record.policy key.tenantId) key.admissionId] else []) :
    lane'.Binds record ∧ known record.policy ∧
      Breaker known
        (b.setLane (laneKey record.operation record.policy key.tenantId) lane') (log ++ did) := by
  obtain ⟨known_record, held, held_here, binds⟩ := breaker.bound key record found
  obtain rfl : held = lane := Option.some.inj (held_here.symm.trans here)
  obtain ⟨policy, known_policy, inRange, guarded, holds⟩ := breaker.lanes _ _ here
  obtain rfl := apart.eq known_policy known_record guarded.digest binds.digest
  have advances := applies.advances spared
  refine ⟨binds.advance advances, known_record, breaker.setLane known_record inRange
    (applies.guarded guarded inRange binds spared) ?_ ?_ ?_⟩
  · have taken := applies.holds guarded binds holds spared
    cases done with
    | true =>
      rw [logged, if_pos rfl, openProbes_concat, DispatchEvent.probes, if_pos rfl]
      exact taken
    | false =>
      rw [logged, if_neg Bool.false_ne_true, List.append_nil]
      exact taken
  · intro event member
    rw [logged] at member
    split at member
    · rw [List.mem_singleton.1 member]
      rfl
    · cases member
  · intro before same
    obtain rfl : before = held := Option.some.inj (same.symm.trans here)
    exact advances

/-- **One step.** -/
theorem keeps (apart : DigestsApart known) {b' : Book} {call : GovernorCall}
    (breaker : Breaker known b log) (asked : call.Requests known)
    (step : Book.Step False b call did b') : Breaker known b' (log ++ did) := by
  cases step with
  | idle forgets =>
    rw [List.append_nil]
    exact breaker.forgets forgets
  | note forgets created digest decides =>
    exact (breaker.forgets forgets).decided apart
      (ValidatedAdmission.new_asked created asked) digest decides (.inl rfl)
  | admitAs forgets created digest decides made =>
    apply (breaker.forgets forgets).admitted apart
      (ValidatedAdmission.new_asked created asked) digest decides made
    split
    · exact .inr ⟨_, rfl, rfl⟩
    · exact .inl rfl
  | settle found granted here applies =>
    obtain ⟨binds, known_record, moved⟩ := breaker.settled apart found here applies nofun rfl
    exact moved.setAdmission known_record (Book.lanes_setLane b _ _)
      ⟨binds.digest, binds.epoch, binds.opened⟩
  | spoil found granted here applies spared =>
    exact (breaker.settled apart found here applies
      (fun _ failed => Bool.eq_false_iff.2 (spared failed)) rfl).2.2

end Breaker

/-- What circuit breaking promises of a governor after a run. -/
structure CircuitBreaker (known : EffectDispatchGovernorPolicy → Prop) (g : DispatchGovernor)
    (log : List DispatchEvent) : Prop where
  valid : ∀ key lane, g.book.lanes key = some lane → validateLaneState lane = .ok ()
  closed : ∀ key lane, g.book.lanes key = some lane → ∃ policy, known policy ∧
    policyDigest policy = .ok lane.policySha256 ∧
      (lane.openUntilMs = none → lane.consecutiveFailures < policy.failureThreshold)
  denied : ∀ key lane openUntil, g.book.lanes key = some lane →
    lane.openUntilMs = some openUntil → ∀ request authority,
      laneKey request.operation request.policy (tenantKey authority) = key →
        request.admittedAtMs < openUntil → (g.step (.admitAs request authority)).2 = []
  single : ∀ key lane, g.book.lanes key = some lane → (outstandingProbes key lane log).length ≤ 1
  stale : ∀ admissionId settlement settledAtMs authority record lane,
    g.book.admissions ⟨tenantKey authority, admissionId⟩ = some record →
      g.book.lanes (laneKey record.operation record.policy (tenantKey authority)) = some lane →
        record.circuitEpoch < lane.circuitEpoch →
          (g.step (.settle admissionId settlement settledAtMs authority)).1.book.lanes =
            g.book.lanes

namespace DispatchGovernor

variable {authority : AuthorityContext}

/-- An open circuit grants nothing. -/
theorem admit_denied (g : DispatchGovernor) {request : EffectDispatchAdmissionRequest}
    {lane : LaneState} {openUntil : UInt64}
    (here : g.book.lanes (laneKey request.operation request.policy (tenantKey authority)) =
      some lane) (opened : lane.openUntilMs = some openUntil)
    (early : request.admittedAtMs < openUntil) : (g.step (.admitAs request authority)).2 = [] := by
  have step : Book.Step True g.book _ _ _ :=
    step_taken g (.admitAs request authority) fun _ => trivial
  generalize (g.step (.admitAs request authority)).2 = did at step ⊢
  generalize (g.step (.admitAs request authority)).1.book = after at step
  cases step with
  | idle => rfl
  | note => rfl
  | @admitAs b' _ _ validated lane' decision record forgets created digest decides made =>
    obtain ⟨_, _, admittedAtMs, key⟩ := ValidatedAdmission.new_fields created
    have same : b'.laneFor validated = lane := by
      rw [forgets.laneFor, Book.laneFor, key, here, Option.getD_some]
    rw [same] at decides
    rw [if_neg]
    intro granted
    have late := decides.granted granted opened
    rw [admittedAtMs] at late
    exact absurd early (UInt64.not_lt.2 late)

/-- A settlement of an older epoch changes no lane. -/
theorem settle_stale (g : DispatchGovernor) {admissionId : EffectLeaseId}
    {settlement : EffectDispatchSettlement} {settledAtMs : UInt64} {record : AdmissionRecord}
    {lane : LaneState} (found : g.book.admissions ⟨tenantKey authority, admissionId⟩ = some record)
    (here : g.book.lanes (laneKey record.operation record.policy (tenantKey authority)) =
      some lane) (older : record.circuitEpoch < lane.circuitEpoch) :
    (g.step (.settle admissionId settlement settledAtMs authority)).1.book.lanes =
      g.book.lanes := by
  have step : Book.Step True g.book _ _ _ :=
    step_taken g (.settle admissionId settlement settledAtMs authority) fun _ => trivial
  have unheard : lane.ignores admissionId record = true := by
    rw [← Bool.not_eq_false]
    intro heard
    rw [(LaneState.ignores_eq_false heard).1] at older
    exact absurd older (UInt64.lt_irrefl _)
  generalize (g.step (.settle admissionId settlement settledAtMs authority)).2 = did at step
  generalize (g.step (.settle admissionId settlement settledAtMs authority)).1.book = after
    at step ⊢
  cases step with
  | idle forgets => exact forgets.lanes
  | settle found' _ here' applies =>
    obtain rfl := Option.some.inj (found.symm.trans found')
    obtain rfl := Option.some.inj (here.symm.trans here')
    rw [Book.lanes_setAdmission, applies.ignored_eq unheard, Book.setLane_self here]
  | spoil found' _ here' applies =>
    obtain rfl := Option.some.inj (found.symm.trans found')
    obtain rfl := Option.some.inj (here.symm.trans here')
    rw [applies.ignored_eq unheard, Book.setLane_self here]

/-- **Circuit breaking.**  However admissions and settlements with any clocks
follow each other on a new governor, the circuits keep their promises in every
state, as long as no settlement strands a lane of a process-local governor. -/
theorem circuit_breaker {g : DispatchGovernor} (fresh : g.Fresh) (calls : List GovernorCall)
    (apart : DigestsApart (requested calls))
    (sound : ∀ before call after, calls = before ++ call :: after →
      (g.run before).1.overflows call = false) :
    CircuitBreaker (requested calls) (g.run calls).1 (g.run calls).2 := by
  have breaker : Breaker (requested calls) (g.run calls).1.book (g.run calls).2 := by
    have kept : ∀ b past call did b', Breaker (requested calls) b past →
        call.Requests (requested calls) → Book.Step False b call did b' →
        Breaker (requested calls) b' (past ++ did) :=
      fun _ _ _ _ _ breaker asked step => breaker.keeps apart asked step
    apply run_keeps Breaker.empty kept fresh fun _ member => GovernorCall.requests_requested member
    intro before call after split strands
    rw [sound before call after split] at strands
    cases strands
  refine ⟨?_, ?_, ?_, ?_, ?_⟩
  · intro key lane here
    obtain ⟨policy, _, inRange, guarded, _⟩ := breaker.lanes key lane here
    exact guarded.valid inRange
  · intro key lane here
    obtain ⟨policy, known_policy, _, guarded, _⟩ := breaker.lanes key lane here
    exact ⟨policy, known_policy, guarded.digest,
      fun shut => UInt32.lt_iff_toNat_lt.2 (guarded.closed shut).1⟩
  · rintro key lane openUntil here opened request authority rfl early
    exact admit_denied _ here opened early
  · intro key lane here
    obtain ⟨_, _, _, _, holds⟩ := breaker.lanes key lane here
    exact holds.single
  · intro admissionId settlement settledAtMs authority record lane found here older
    exact settle_stale _ found here older

end DispatchGovernor

end Runs

/-! ## A stranded lane -/

namespace DispatchGovernor

section Sample

attribute [local instance] constantSha256

/-- A normal grant fails at a time. -/
def failingCalls (atMs : UInt64) : List GovernorCall :=
  [sampleAdmission "lease-1" 1, sampleSettlement "lease-1" .availabilityFailure atMs]

theorem failingCalls_apart (atMs : UInt64) : DigestsApart (requested (failingCalls atMs)) :=
  sample_apart (by simp [failingCalls, sampleAdmission, sampleSettlement, GovernorCall.Requests])

theorem circuit_breaker_sample :
    CircuitBreaker (requested (failingCalls 1)) ((memory .empty).run (failingCalls 1)).1
      ((memory .empty).run (failingCalls 1)).2 := by
  refine circuit_breaker (.inl rfl) (failingCalls 1) (failingCalls_apart 1) ?_
  intro before call after split
  rcases before with _ | ⟨first, _ | ⟨second, rest⟩⟩
  · cases split
    rfl
  · cases split
    decide +kernel
  · simp [failingCalls] at split

/-- The lane is left closed with as many failures as the threshold. -/
theorem failingCalls_lane :
    ((memory .empty).run (failingCalls 18446744073709551615)).1.book.lanes sampleLane =
      some ⟨constantSha256.digest (.json .null), 18446744073709551615, 0, 1, 1, 2, none, none,
        none⟩ := by
  decide +kernel

/-- **A lane can be stranded.**  A failure that would open the circuit until no
time is counted, and the circuit stays closed. -/
theorem lane_stranded :
    ¬ ∀ g : DispatchGovernor, g.Fresh → ∀ calls, DigestsApart (requested calls) →
      CircuitBreaker (requested calls) (g.run calls).1 (g.run calls).2 := by
  intro promised
  obtain ⟨policy, known_policy, _, below⟩ :=
    (promised (memory .empty) (.inl rfl) (failingCalls 18446744073709551615)
      (failingCalls_apart _)).closed sampleLane _ failingCalls_lane
  have sample : policy = samplePolicy := by
    obtain ⟨request, authority, member, rfl⟩ := known_policy
    simp only [failingCalls, sampleAdmission, sampleSettlement, List.mem_cons, List.not_mem_nil,
      or_false, reduceCtorEq, GovernorCall.admitAs.injEq] at member
    rw [member.1]
  rw [sample] at below
  exact absurd (below rfl) (by decide)

end Sample

end DispatchGovernor

end YHarness.Effects

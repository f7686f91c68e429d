/-
# YHarness.Effects.RateLimit -- grants in one window of a lane

A lane counts the normal grants of the window it is in.  `Counted` relates that
counter to the grants that were made: no grant lies in a later window, the
current window has at most as many as were counted, and no window has more than
the policy allows.  Clocks that run backwards are refused and windows start at
multiples of their length, so a window that is left is never entered again.

The sole half-open probe is granted beside the count: `probe_beyond_limit` runs a
lane that grants two dispatches in a window of one.
-/
import YHarness.Effects.GovernorSteps

namespace YHarness.Effects

open YHarness.Lib YHarness.Kernel

set_option autoImplicit false

/-! ## Grants of a window -/

/-- The admission that an event grants on a lane at a time between two bounds, if
its decision counts. -/
def DispatchEvent.grantIn (lane : LaneKey) (counts : EffectDispatchAdmissionDecision → Bool)
    (low high : Nat) : DispatchEvent → Option EffectLeaseId
  | .granted lane' _ admissionId atMs decision =>
    if lane' = lane ∧ counts decision = true ∧ low ≤ atMs.toNat ∧ atMs.toNat < high then
      some admissionId
    else none
  | .settled .. => none

/-- The distinct admissions granted on a lane between two times. -/
def grantedIds (lane : LaneKey) (counts : EffectDispatchAdmissionDecision → Bool) (low high : Nat)
    (log : List DispatchEvent) : List EffectLeaseId :=
  (log.filterMap (DispatchEvent.grantIn lane counts low high)).dedup

/-- How many normal grants were made on a lane in its `k`-th window. -/
def allowedIn (lane : LaneKey) (windowMs k : Nat) (log : List DispatchEvent) : Nat :=
  (log.filterMap
    (DispatchEvent.grantIn lane (· == .allow) (k * windowMs) ((k + 1) * windowMs))).length

/-- The lane of a grant. -/
def DispatchEvent.grantedLane : DispatchEvent → Option LaneKey
  | .granted lane .. => some lane
  | .settled .. => none

theorem allowedIn_append (lane : LaneKey) (windowMs k : Nat) (log later : List DispatchEvent) :
    allowedIn lane windowMs k (log ++ later) =
      allowedIn lane windowMs k log + allowedIn lane windowMs k later := by
  simp [allowedIn]

theorem allowedIn_eq_zero {lane : LaneKey} {windowMs k : Nat} {log : List DispatchEvent}
    (none_here : ∀ event ∈ log, event.grantedLane ≠ some lane) :
    allowedIn lane windowMs k log = 0 := by
  rw [allowedIn, List.length_eq_zero_iff, List.filterMap_eq_nil_iff]
  intro event member
  have other := none_here event member
  cases event with
  | settled => rfl
  | granted lane' policy admissionId atMs decision =>
    rw [DispatchEvent.grantIn, if_neg]
    rintro ⟨rfl, _⟩
    exact other rfl

/-- A normal grant lies in the window of its time. -/
theorem allowedIn_granted {lane : LaneKey} {policy : EffectDispatchGovernorPolicy}
    {admissionId : EffectLeaseId} {atMs : UInt64} {decision : EffectDispatchAdmissionDecision}
    {windowMs k : Nat} (positive : 0 < windowMs) :
    allowedIn lane windowMs k [.granted lane policy admissionId atMs decision] =
      if decision = .allow ∧ atMs.toNat / windowMs = k then 1 else 0 := by
  have window : atMs.toNat / windowMs = k ↔
      k * windowMs ≤ atMs.toNat ∧ atMs.toNat < (k + 1) * windowMs := by
    rw [Nat.div_eq_iff positive, Nat.add_mul, Nat.one_mul]
    omega
  simp only [window]
  by_cases counted : decision = .allow ∧ k * windowMs ≤ atMs.toNat ∧
      atMs.toNat < (k + 1) * windowMs
  · rw [if_pos counted]
    simp [allowedIn, DispatchEvent.grantIn, counted]
  · rw [if_neg counted]
    simp only [allowedIn, List.length_eq_zero_iff, List.filterMap_eq_nil_iff, List.mem_singleton,
      forall_eq, DispatchEvent.grantIn]
    rw [if_neg]
    simpa using counted

/-! ## The window of a lane -/

namespace LaneState

/-- The number of the window that a lane is in. -/
def windowIndex (lane : LaneState) (policy : EffectDispatchGovernorPolicy) : Nat :=
  lane.windowStartedAtMs.toNat / policy.windowMs.toNat

/-- A lane under a policy counts the grants that were made window by window. -/
structure Counted [Sha256] (policy : EffectDispatchGovernorPolicy) (lane : LaneState)
    (grants : Nat → Nat) : Prop where
  digest : policyDigest policy = .ok lane.policySha256
  aligned : policy.windowMs.toNat ∣ lane.windowStartedAtMs.toNat
  started : lane.windowStartedAtMs ≤ lane.lastObservedAtMs
  later : ∀ k, lane.windowIndex policy < k → grants k = 0
  current : grants (lane.windowIndex policy) ≤ lane.windowCount.toNat
  capped : ∀ k, grants k ≤ policy.maxDispatchesPerWindow.toNat

/-- What a lane may become without entering another window or granting. -/
structure SameWindow (lane lane' : LaneState) : Prop where
  policySha256 : lane'.policySha256 = lane.policySha256
  windowStartedAtMs : lane'.windowStartedAtMs = lane.windowStartedAtMs
  windowCount : lane'.windowCount = lane.windowCount
  lastObservedAtMs : lane.lastObservedAtMs ≤ lane'.lastObservedAtMs

theorem SameWindow.refl (lane : LaneState) : lane.SameWindow lane :=
  ⟨rfl, rfl, rfl, UInt64.le_refl _⟩

variable {request : ValidatedAdmission} {lane lane' : LaneState}

/-- A settlement leaves the window alone. -/
theorem Applies.sameWindow {admissionId : EffectLeaseId} {record : AdmissionRecord}
    {settledAtMs : UInt64} {settlement : EffectDispatchSettlement} {done : Bool}
    (applies : lane.Applies admissionId record settledAtMs settlement done lane') :
    lane.SameWindow lane' := by
  cases applies with
  | ignored => exact .refl lane
  | _ => exact ⟨rfl, rfl, rfl, le_hear lane settledAtMs⟩

/-- The windows of a lane after a decision: the same one, or the later one of the
request; a normal grant is counted in the window of the request. -/
structure Moved (lane : LaneState) (request : ValidatedAdmission) (allowed : Bool)
    (lane' : LaneState) : Prop where
  policySha256 : lane'.policySha256 = lane.policySha256
  observed : lane'.lastObservedAtMs = request.admittedAtMs
  notEarlier : lane.lastObservedAtMs ≤ request.admittedAtMs
  window : lane'.windowStartedAtMs = fixedWindowStart request.admittedAtMs request.policy.windowMs
  count : lane'.windowCount.toNat = (if lane'.windowStartedAtMs = lane.windowStartedAtMs then
    lane.windowCount.toNat else 0) + allowed.toNat
  room : allowed = true → lane'.windowCount.toNat ≤ request.policy.maxDispatchesPerWindow.toNat

theorem inWindow_moved {lane : LaneState} (onTime : lane.lastObservedAtMs ≤ request.admittedAtMs) :
    lane.Moved request false (lane.inWindow request) := by
  obtain ⟨count, entered, counted⟩ := enterWindow_eq (lane.observe request.admittedAtMs)
    (fixedWindowStart request.admittedAtMs request.policy.windowMs)
  rw [observe_windowCount, observe_windowStartedAtMs] at counted
  rw [inWindow, entered]
  refine ⟨observe_policySha256 lane _, observe_lastObservedAtMs lane _, onTime, rfl, ?_, ?_⟩
  · show count.toNat = _
    rcases counted with ⟨rfl, same⟩ | ⟨rfl, other⟩
    · rw [if_pos same]
      rfl
    · rw [if_neg other]
      rfl
  · intro allowed
    cases allowed

/-- A decision leaves the window alone, or moves to the window of the request. -/
theorem Decides.window {decision : Option EffectDispatchAdmissionDecision}
    (decides : lane.Decides request decision lane') :
    (lane.SameWindow lane' ∧ decision ≠ some .allow) ∨
      lane.Moved request (decision == some .allow) lane' := by
  cases decides with
  | late => exact .inl ⟨.refl lane, nofun⟩
  | held onTime _ denied =>
    refine .inl ⟨⟨observe_policySha256 lane _, observe_windowStartedAtMs lane _,
      observe_windowCount lane _, ?_⟩, ?_⟩
    · rw [observe_lastObservedAtMs]
      exact onTime
    · intro allowed
      cases denied _ allowed
  | probe onTime =>
    refine .inl ⟨⟨observe_policySha256 lane _, observe_windowStartedAtMs lane _,
      observe_windowCount lane _, ?_⟩, nofun⟩
    show _ ≤ (lane.observe request.admittedAtMs).lastObservedAtMs
    rw [observe_lastObservedAtMs]
    exact onTime
  | full onTime _ denied =>
    have quiet : (decision == some .allow) = false := by
      rw [beq_eq_false_iff_ne]
      intro allowed
      cases denied _ allowed
    rw [quiet]
    exact .inr (inWindow_moved onTime)
  | allow onTime closed room fits =>
    obtain ⟨policySha256, observed, notEarlier, window, count, _⟩ := inWindow_moved onTime
    have next : ((lane.inWindow request).windowCount + 1).toNat =
        (lane.inWindow request).windowCount.toNat + 1 := by
      rw [UInt32.toNat_add]
      exact Nat.mod_eq_of_lt fits
    refine .inr ⟨policySha256, observed, notEarlier, window, ?_, ?_⟩
    · show ((lane.inWindow request).windowCount + 1).toNat = _
      rw [next, count]
      rfl
    · intro _
      show ((lane.inWindow request).windowCount + 1).toNat ≤ _
      rw [next]
      exact room

theorem fixedWindowStart_toNat (now windowMs : UInt64) :
    (fixedWindowStart now windowMs).toNat =
      windowMs.toNat * (now.toNat / windowMs.toNat) := by
  have divided := Nat.div_add_mod now.toNat windowMs.toNat
  have below : now % windowMs ≤ now := by
    rw [UInt64.le_iff_toNat_le, UInt64.toNat_mod]
    exact Nat.mod_le _ _
  rw [fixedWindowStart, UInt64.toNat_sub_of_le _ _ below, UInt64.toNat_mod]
  omega

variable [Sha256] {policy : EffectDispatchGovernorPolicy} {grants : Nat → Nat}

theorem Counted.same (counted : lane.Counted policy grants) (same : lane.SameWindow lane') :
    lane'.Counted policy grants := by
  obtain ⟨digest, aligned, started, later, current, capped⟩ := counted
  obtain ⟨policySha256, window, count, observed⟩ := same
  rw [← window] at aligned started
  unfold windowIndex at later current
  rw [← window] at later current
  rw [← count] at current
  rw [← policySha256] at digest
  exact ⟨digest, aligned, UInt64.le_trans started observed, later, current, capped⟩

/-- **One decision.**  A grant that is counted keeps the count. -/
theorem Counted.moved {lane lane' : LaneState} {request : ValidatedAdmission} {allowed : Bool}
    (counted : lane.Counted request.policy grants) (moved : lane.Moved request allowed lane')
    (positive : 0 < request.policy.windowMs.toNat) :
    lane'.Counted request.policy fun k => grants k +
      if allowed = true ∧ request.admittedAtMs.toNat / request.policy.windowMs.toNat = k then 1
      else 0 := by
  obtain ⟨digest, aligned, started, later, current, capped⟩ := counted
  obtain ⟨policySha256, observed, notEarlier, window, count, room⟩ := moved
  have start := congrArg UInt64.toNat window
  rw [fixedWindowStart_toNat] at start
  have index : lane'.windowIndex request.policy =
      request.admittedAtMs.toNat / request.policy.windowMs.toNat := by
    rw [windowIndex, start, Nat.mul_div_cancel_left _ positive]
  have ordered : lane.windowIndex request.policy ≤ lane'.windowIndex request.policy := by
    rw [index]
    apply Nat.div_le_div_right
    exact UInt64.le_iff_toNat_le.1 (UInt64.le_trans started notEarlier)
  have counted : grants (lane'.windowIndex request.policy) + allowed.toNat ≤
      lane'.windowCount.toNat := by
    rw [count]
    apply Nat.add_le_add_right
    by_cases same : lane'.windowStartedAtMs = lane.windowStartedAtMs
    · rw [if_pos same, windowIndex, same]
      exact current
    · rw [if_neg same]
      apply le_of_eq
      apply later
      refine lt_of_le_of_ne ordered ?_
      intro equal
      apply same
      rw [← UInt64.toNat_inj, start, ← index, ← equal]
      exact Nat.mul_div_cancel' aligned
  rw [← policySha256] at digest
  refine ⟨digest, ?_, ?_, ?_, ?_, ?_⟩
  · rw [start]
    exact Nat.dvd_mul_right _ _
  · rw [UInt64.le_iff_toNat_le, start, observed]
    exact Nat.mul_div_le _ _
  · intro k above
    rw [if_neg (by omega), later k (by omega)]
  · rw [← index]
    cases allowed <;> simpa using counted
  · intro k
    by_cases here : lane'.windowIndex request.policy = k
    · cases allowed with
      | false => simpa using capped k
      | true =>
        have within := room rfl
        rw [← here, ← index, if_pos ⟨rfl, rfl⟩]
        exact le_trans counted within
    · rw [if_neg (by rw [← index]; exact fun h => here h.2), Nat.add_zero]
      exact capped k

theorem Counted.fewer {lane : LaneState} {fewer : Nat → Nat}
    (counted : lane.Counted policy grants) (below : ∀ k, fewer k ≤ grants k) :
    lane.Counted policy fewer where
  digest := counted.digest
  aligned := counted.aligned
  started := counted.started
  later k above := Nat.eq_zero_of_le_zero ((below k).trans_eq (counted.later k above))
  current := (below _).trans counted.current
  capped k := (below k).trans (counted.capped k)

theorem initialLane_counted (digest : policyDigest request.policy = .ok request.policySha256) :
    (initialLane request).Counted request.policy fun _ => 0 where
  digest := digest
  aligned := by
    show _ ∣ (fixedWindowStart request.admittedAtMs request.policy.windowMs).toNat
    rw [fixedWindowStart_toNat]
    exact Nat.dvd_mul_right _ _
  started := by
    show fixedWindowStart request.admittedAtMs request.policy.windowMs ≤ request.admittedAtMs
    rw [UInt64.le_iff_toNat_le, fixedWindowStart_toNat]
    exact Nat.mul_div_le _ _
  later _ _ := rfl
  current := Nat.zero_le _
  capped _ := Nat.zero_le _

end LaneState

/-! ## Runs -/

section Runs

variable [Sha256]

variable {known : EffectDispatchGovernorPolicy → Prop}

/-- Every lane counts the grants that were logged for it, all under one policy. -/
structure Windowed (known : EffectDispatchGovernorPolicy → Prop) (b : Book)
    (log : List DispatchEvent) : Prop where
  absent : ∀ key, b.lanes key = none → ∀ event ∈ log, event.grantedLane ≠ some key
  counted : ∀ key lane, b.lanes key = some lane → ∃ policy, known policy ∧
    0 < policy.windowMs.toNat ∧
    (∀ policy' admissionId atMs decision,
      .granted key policy' admissionId atMs decision ∈ log → policy' = policy) ∧
    lane.Counted policy fun k => allowedIn key policy.windowMs.toNat k log

namespace Windowed

variable {b : Book} {log : List DispatchEvent}

theorem empty : Windowed known Book.empty [] where
  absent _ _ := by simp
  counted _ _ := nofun

variable {did : List DispatchEvent} {request : ValidatedAdmission}

/-- The lane that decides a request counts the grants under the policy of the
request. -/
theorem laneFor (windowed : Windowed known b log) (apart : DigestsApart known)
    (asked : Asked known request) (digest : (b.laneFor request).policySha256 = request.policySha256) :
    (∀ policy admissionId atMs decision,
      .granted request.lane policy admissionId atMs decision ∈ log → policy = request.policy) ∧
    (b.laneFor request).Counted request.policy fun k =>
      allowedIn request.lane request.policy.windowMs.toNat k log := by
  unfold Book.laneFor at digest ⊢
  cases here : b.lanes request.lane with
  | none =>
    have quiet := windowed.absent request.lane here
    refine ⟨?_, ?_⟩
    · intro policy admissionId atMs decision member
      exact absurd rfl (quiet _ member)
    · apply (LaneState.initialLane_counted asked.digest).fewer
      intro k
      rw [allowedIn_eq_zero quiet]
  | some lane =>
    obtain ⟨policy, known_policy, _, granted, counted⟩ := windowed.counted request.lane lane here
    rw [here, Option.getD_some] at digest
    have held := counted.digest
    rw [digest] at held
    obtain rfl := apart.eq known_policy asked.known held asked.digest
    exact ⟨granted, counted⟩

/-- A lane is rewritten, and only its own grants are logged. -/
theorem setLane (windowed : Windowed known b log) {key : LaneKey} {lane : LaneState}
    {policy : EffectDispatchGovernorPolicy} (known_policy : known policy)
    (positive : 0 < policy.windowMs.toNat)
    (own : ∀ event ∈ did, ∀ key', event.grantedLane = some key' → key' = key)
    (granted : ∀ policy' admissionId atMs decision,
      .granted key policy' admissionId atMs decision ∈ log ++ did → policy' = policy)
    (counted : lane.Counted policy fun k =>
      allowedIn key policy.windowMs.toNat k (log ++ did)) :
    Windowed known (b.setLane key lane) (log ++ did) where
  absent key' none_here event member := by
    by_cases same : key' = key
    · rw [same, Book.lanes_setLane] at none_here
      cases none_here
    · rw [Book.lanes_setLane_of_ne b lane same] at none_here
      rcases List.mem_append.1 member with before | now
      · exact windowed.absent key' none_here event before
      · exact fun grants => same (own event now key' grants)
  counted key' lane' here := by
    by_cases same : key' = key
    · rw [same, Book.lanes_setLane] at here
      cases here
      rw [same]
      exact ⟨policy, known_policy, positive, granted, counted⟩
    · rw [Book.lanes_setLane_of_ne b lane same] at here
      obtain ⟨policy', known', positive', granted', counted'⟩ := windowed.counted key' lane' here
      have quiet : ∀ event ∈ did, event.grantedLane ≠ some key' :=
        fun event now grants => same (own event now key' grants)
      refine ⟨policy', known', positive', ?_, ?_⟩
      · intro other admissionId atMs decision member
        rcases List.mem_append.1 member with before | now
        · exact granted' other admissionId atMs decision before
        · exact absurd rfl (quiet _ now)
      · apply counted'.fewer
        intro k
        rw [allowedIn_append, allowedIn_eq_zero quiet, Nat.add_zero]

theorem setAdmission (windowed : Windowed known b log) {key : AdmissionKey}
    {record : AdmissionRecord} : Windowed known (b.setAdmission key record) log :=
  ⟨windowed.absent, windowed.counted⟩

/-- A settlement of a lane changes no window. -/
theorem settled (windowed : Windowed known b log) {key : LaneKey} {lane lane' : LaneState}
    (here : b.lanes key = some lane) (same : lane.SameWindow lane')
    (quiet : ∀ event ∈ did, event.grantedLane = none) :
    Windowed known (b.setLane key lane') (log ++ did) := by
  obtain ⟨policy, known_policy, positive, granted, counted⟩ := windowed.counted key lane here
  have none_here : ∀ event ∈ did, event.grantedLane ≠ some key := by
    intro event member grants
    rw [quiet event member] at grants
    cases grants
  refine windowed.setLane known_policy positive ?_ ?_ ?_
  · intro event member key' grants
    rw [quiet event member] at grants
    cases grants
  · intro policy' admissionId atMs decision member
    rcases List.mem_append.1 member with before | now
    · exact granted policy' admissionId atMs decision before
    · exact absurd rfl (none_here _ now)
  · apply (counted.same same).fewer
    intro k
    rw [allowedIn_append, allowedIn_eq_zero none_here, Nat.add_zero]

/-- A decision moves the lane of its request, whether or not it is logged. -/
theorem decided (windowed : Windowed known b log) (apart : DigestsApart known)
    (asked : Asked known request) {lane : LaneState}
    {decision : Option EffectDispatchAdmissionDecision}
    (digest : (b.laneFor request).policySha256 = request.policySha256)
    (decides : (b.laneFor request).Decides request decision lane)
    (logged : did = [] ∨ ∃ made, decision = some made ∧ did =
      [.granted request.lane request.policy request.admissionId request.admittedAtMs made]) :
    Windowed known (b.setLane request.lane lane) (log ++ did) := by
  obtain ⟨granted, counted⟩ := windowed.laneFor apart asked digest
  have positive := (EffectDispatchGovernorPolicy.inRange asked.valid).window
  have own : ∀ event ∈ did, ∀ key', event.grantedLane = some key' → key' = request.lane := by
    intro event member key' grants
    rcases logged with rfl | ⟨made, _, rfl⟩
    · cases member
    · rw [List.mem_singleton.1 member] at grants
      cases grants
      rfl
  refine windowed.setLane asked.known positive own ?_ ?_
  · intro policy' admissionId atMs decision' member
    rcases List.mem_append.1 member with before | now
    · exact granted policy' admissionId atMs decision' before
    · rcases logged with rfl | ⟨made, _, rfl⟩
      · cases now
      · cases List.mem_singleton.1 now
        rfl
  · have made (k : Nat) : allowedIn request.lane request.policy.windowMs.toNat k did ≤
        if (decision == some .allow) = true ∧
          request.admittedAtMs.toNat / request.policy.windowMs.toNat = k then 1 else 0 := by
      rcases logged with rfl | ⟨made, rfl, rfl⟩
      · exact Nat.zero_le _
      · rw [allowedIn_granted positive]
        simp
    rcases decides.window with ⟨same, quiet⟩ | moved
    · apply (counted.same same).fewer
      intro k
      have none_here := made k
      rw [if_neg (by simp [quiet]), Nat.le_zero] at none_here
      rw [allowedIn_append, none_here, Nat.add_zero]
    · apply (counted.moved moved positive).fewer
      intro k
      rw [allowedIn_append]
      exact Nat.add_le_add_left (made k) _

theorem forgets (windowed : Windowed known b log) {b' : Book} (forgets : b.Forgets b') :
    Windowed known b' log := by
  obtain ⟨absent, counted⟩ := windowed
  rw [← forgets.lanes] at absent counted
  exact ⟨absent, counted⟩

/-- **One step.** -/
theorem keeps (apart : DigestsApart known) {fault : Prop} {b' : Book} {call : GovernorCall}
    (windowed : Windowed known b log) (asked : call.Requests known)
    (step : Book.Step fault b call did b') : Windowed known b' (log ++ did) := by
  cases step with
  | idle forgets =>
    rw [List.append_nil]
    exact windowed.forgets forgets
  | note forgets created digest decides =>
    exact (windowed.forgets forgets).decided apart
      (ValidatedAdmission.new_asked created asked) digest decides (.inl rfl)
  | admitAs forgets created digest decides =>
    apply setAdmission
    apply (windowed.forgets forgets).decided apart
      (ValidatedAdmission.new_asked created asked) digest decides
    split
    · exact .inr ⟨_, rfl, rfl⟩
    · exact .inl rfl
  | settle _ _ here applies =>
    apply setAdmission
    apply windowed.settled here applies.sameWindow
    intro event member
    rw [List.mem_singleton.1 member]
    rfl
  | spoil _ _ here applies =>
    exact windowed.settled here applies.sameWindow (by simp)

end Windowed

namespace DispatchGovernor

/-- **The normal grants of a window are limited.**  However admissions and
settlements with any clocks follow each other on a new governor, the distinct
admissions that a lane allows in one window are at most as many as the policy of
the lane says. -/
theorem allow_rate_limit {g : DispatchGovernor} (fresh : g.Fresh) (calls : List GovernorCall)
    (apart : DigestsApart (requested calls)) {lane : LaneKey}
    {policy : EffectDispatchGovernorPolicy} {admissionId : EffectLeaseId} {atMs : UInt64}
    {decision : EffectDispatchAdmissionDecision}
    (made : .granted lane policy admissionId atMs decision ∈ (g.run calls).2) (k : Nat) :
    (grantedIds lane (· == .allow) (k * policy.windowMs.toNat) ((k + 1) * policy.windowMs.toNat)
      (g.run calls).2).length ≤ policy.maxDispatchesPerWindow.toNat := by
  have kept : ∀ b past call did b', Windowed (requested calls) b past →
      call.Requests (requested calls) → Book.Step True b call did b' →
      Windowed (requested calls) b' (past ++ did) :=
    fun _ _ _ _ _ windowed asked step => windowed.keeps apart asked step
  have windowed : Windowed (requested calls) (g.run calls).1.book (g.run calls).2 :=
    run_keeps Windowed.empty kept fresh
      (fun _ member => GovernorCall.requests_requested member) fun _ _ _ _ _ => trivial
  cases here : (g.run calls).1.book.lanes lane with
  | none => exact absurd rfl (windowed.absent lane here _ made)
  | some state =>
    obtain ⟨policy', _, _, granted, counted⟩ := windowed.counted lane state here
    obtain rfl := granted policy admissionId atMs decision made
    exact (List.dedup_sublist _).length_le.trans (counted.capped k)

end DispatchGovernor

end Runs

/-! ## A probe beside the count -/

namespace DispatchGovernor

section Sample

attribute [local instance] constantSha256

/-- A normal grant fails and opens the circuit, and the probe follows within the
window. -/
def sampleCalls : List GovernorCall :=
  [sampleAdmission "lease-1" 1, sampleSettlement "lease-1" .availabilityFailure 1,
    sampleAdmission "lease-2" 2]

theorem sampleCalls_run : ((memory .empty).run sampleCalls).2 =
    [.granted sampleLane samplePolicy "lease-1" 1 .allow, .settled sampleLane "lease-1",
      .granted sampleLane samplePolicy "lease-2" 2 .allowProbe] := by
  decide +kernel

theorem sampleCalls_apart : DigestsApart (requested sampleCalls) :=
  sample_apart (by simp [sampleCalls, sampleAdmission, sampleSettlement, GovernorCall.Requests])

theorem sampleCalls_made : .granted sampleLane samplePolicy "lease-1" 1 .allow ∈
    ((memory .empty).run sampleCalls).2 := by
  rw [sampleCalls_run]
  exact List.mem_cons_self

theorem allow_rate_limit_sample :
    (grantedIds sampleLane (· == .allow) (0 * samplePolicy.windowMs.toNat)
      ((0 + 1) * samplePolicy.windowMs.toNat) ((memory .empty).run sampleCalls).2).length ≤
        samplePolicy.maxDispatchesPerWindow.toNat :=
  allow_rate_limit (.inl rfl) sampleCalls sampleCalls_apart sampleCalls_made 0

/-- **Probes come on top.**  Counting them, a window has more grants than the
policy allows. -/
theorem probe_beyond_limit :
    ¬ ∀ g : DispatchGovernor, g.Fresh → ∀ calls, DigestsApart (requested calls) →
      ∀ lane policy admissionId atMs decision,
        .granted lane policy admissionId atMs decision ∈ (g.run calls).2 → ∀ k,
          (grantedIds lane (·.granted) (k * policy.windowMs.toNat)
            ((k + 1) * policy.windowMs.toNat) (g.run calls).2).length ≤
              policy.maxDispatchesPerWindow.toNat := by
  intro limited
  have few := limited (memory .empty) (.inl rfl) sampleCalls sampleCalls_apart sampleLane
    samplePolicy "lease-1" 1 .allow sampleCalls_made 0
  rw [sampleCalls_run] at few
  exact absurd few (by decide +kernel)

end Sample

end DispatchGovernor

end YHarness.Effects

/-
# YHarness.Effects.Moves -- the histories an Effect may have

`Moves` says, once for both paths, what one transition does to the status of an
Effect, and `Replays` which lists of transitions are histories and what they
project to.  The replay path is this relation: `validate_eq_ok` reads an accepted
Effect as a history of at most 4096 transitions that projects to the record.
-/
import YHarness.Effects.Aggregate
import YHarness.Lib.Ledger

namespace YHarness.Effects

open YHarness.Lib YHarness.Kernel

set_option autoImplicit false

/-! ## One transition -/

/-- What a transition of an actor at a time may do to a status, when the given
leases were used before. -/
inductive Moves (used : List EffectLeaseId) (now : UInt64) (actor : ActorIdentity) :
    EffectStatus → EffectTransitionKind → EffectStatus → Prop
  | claim {attempt : UInt32} {notBeforeMs leaseDurationMs expiresAtMs : UInt64}
      {leaseId : EffectLeaseId} (eligible : notBeforeMs ≤ now)
      (named : validateIdentity "Effect lease" leaseId = .ok ())
      (lasts : validateLeaseDuration leaseDurationMs = .ok ()) (fresh : leaseId ∉ used)
      (ends : leaseExpiration now leaseDurationMs = .ok expiresAtMs) :
      Moves used now actor (.pending attempt notBeforeMs)
        (.claimed leaseId attempt leaseDurationMs)
        (.claimed ⟨leaseId, actor, attempt, now, expiresAtMs⟩)
  | renew {lease : EffectLease} {leaseDurationMs expiresAtMs : UInt64}
      (owned : lease.owner = actor) (active : now < lease.expiresAtMs)
      (lasts : validateLeaseDuration leaseDurationMs = .ok ())
      (ends : leaseExpiration now leaseDurationMs = .ok expiresAtMs)
      (longer : lease.expiresAtMs < expiresAtMs) :
      Moves used now actor (.claimed lease)
        (.leaseRenewed lease.id leaseDurationMs lease.expiresAtMs)
        (.claimed { lease with expiresAtMs })
  | applied {lease : EffectLease} {receipt : EffectReceipt} (owned : lease.owner = actor)
      (active : now < lease.expiresAtMs) (valid : validateReceipt receipt now = .ok ()) :
      Moves used now actor (.claimed lease) (.applied lease.id lease.attempt receipt false)
        (.applied lease.attempt receipt)
  | notApplied {lease : EffectLease} {reasonCode : String} {retryAtMs : Option UInt64}
      {after : EffectStatus} (owned : lease.owner = actor) (active : now < lease.expiresAtMs)
      (reason : validateCapabilityName "Effect not-applied reason" reasonCode = .ok ())
      (retry : validateRetryTime retryAtMs now = .ok ())
      (settled : settledNotApplied lease.attempt reasonCode retryAtMs = .ok after) :
      Moves used now actor (.claimed lease)
        (.notApplied lease.id lease.attempt reasonCode retryAtMs false) after
  | reported {lease : EffectLease} {reasonCode : String} (owned : lease.owner = actor)
      (active : now < lease.expiresAtMs)
      (reason : validateCapabilityName "Effect uncertainty reason" reasonCode = .ok ()) :
      Moves used now actor (.claimed lease)
        (.becameUnknown lease.id lease.attempt reasonCode false)
        (.unknown lease.attempt lease.id reasonCode)
  | expired {lease : EffectLease} (lapsed : lease.expiresAtMs ≤ now) :
      Moves used now actor (.claimed lease)
        (.becameUnknown lease.id lease.attempt "lease.expired" true)
        (.unknown lease.attempt lease.id "lease.expired")
  | reconciledApplied {attempt : UInt32} {leaseId : EffectLeaseId} {reasonCode : String}
      {receipt : EffectReceipt} (valid : validateReceipt receipt now = .ok ()) :
      Moves used now actor (.unknown attempt leaseId reasonCode)
        (.applied leaseId attempt receipt true) (.applied attempt receipt)
  | reconciledNotApplied {attempt : UInt32} {leaseId : EffectLeaseId} {doubt reasonCode : String}
      {retryAtMs : Option UInt64} {after : EffectStatus}
      (reason : validateCapabilityName "Effect not-applied reason" reasonCode = .ok ())
      (retry : validateRetryTime retryAtMs now = .ok ())
      (settled : settledNotApplied attempt reasonCode retryAtMs = .ok after) :
      Moves used now actor (.unknown attempt leaseId doubt)
        (.notApplied leaseId attempt reasonCode retryAtMs true) after
  | cancel {notBeforeMs : UInt64} {reasonCode : String}
      (reason : validateCapabilityName "Effect cancellation reason" reasonCode = .ok ()) :
      Moves used now actor (.pending 1 notBeforeMs) (.cancelled reasonCode) (.cancelled reasonCode)

variable {t : EffectTransition} {tenantId : Option String} {leaseId : EffectLeaseId}
  {actor : ActorIdentity} {used used' : List EffectLeaseId} {past : List EffectTransition}
  {status : EffectStatus} {p : EffectProjection} {lease : EffectLease} {r : Replay}
  {action : String} {digest : String} {now : UInt64}

theorem activeOwnedLease_eq_ok :
    activeOwnedLease status leaseId actor now action = .ok lease ↔
      status = .claimed lease ∧ lease.id = leaseId ∧ lease.owner = actor ∧
        now < lease.expiresAtMs := by
  cases status with
  | claimed held =>
    simp only [activeOwnedLease, seq_eq_ok, rejectIf_eq_ok, Bool.or_eq_false_iff,
      bne_eq_false_iff_eq, decide_eq_false_iff_not, UInt64.not_le, ok_eq_ok,
      EffectStatus.claimed.injEq]
    constructor
    · rintro ⟨⟨named, owned⟩, active, rfl⟩
      exact ⟨rfl, named, owned, active⟩
    · rintro ⟨rfl, named, owned, active⟩
      exact ⟨⟨named, owned⟩, active, rfl⟩
  | _ => simp [activeOwnedLease]

theorem activeProjectedLease_eq_ok :
    activeProjectedLease status leaseId actor now action = .ok lease ↔
      status = .claimed lease ∧ lease.id = leaseId ∧ lease.owner = actor ∧
        now < lease.expiresAtMs := by
  rw [activeProjectedLease, mapError_eq_ok, activeOwnedLease_eq_ok]

theorem activeProjectedLease_held (owned : lease.owner = actor) (active : now < lease.expiresAtMs) :
    activeProjectedLease (.claimed lease) lease.id actor now action = .ok lease :=
  activeProjectedLease_eq_ok.2 ⟨rfl, rfl, owned, active⟩

theorem validateUnknown_eq_ok {attempt : UInt32} :
    validateUnknown status leaseId attempt = .ok () ↔
      ∃ reasonCode, status = .unknown attempt leaseId reasonCode := by
  cases status with
  | unknown current held reasonCode =>
    simp only [validateUnknown, rejectIf_eq_ok, Bool.or_eq_false_iff, bne_eq_false_iff_eq,
      EffectStatus.unknown.injEq]
    constructor
    · rintro ⟨rfl, rfl⟩
      exact ⟨reasonCode, rfl, rfl, rfl⟩
    · rintro ⟨_, rfl, rfl, _⟩
      exact ⟨rfl, rfl⟩
  | _ => simp [validateUnknown]

/-- The leases used after a transition. -/
def EffectTransitionKind.uses (kind : EffectTransitionKind) (used : List EffectLeaseId) :
    List EffectLeaseId :=
  match kind with
  | claimed leaseId _ _ => leaseId :: used
  | _ => used

section Projected

variable {sequence : UInt64} {commandId : EffectCommandId} {commandSha256 : String}
  {after : EffectStatus}

theorem claimed_moves {leaseId attempt leaseDurationMs}
    (applied : applyProjectedKind status used ⟨sequence, commandId, commandSha256, now, actor,
      .claimed leaseId attempt leaseDurationMs⟩ = .ok (after, used')) :
    Moves used now actor status (.claimed leaseId attempt leaseDurationMs) after ∧
      used' = leaseId :: used := by
  cases status with
  | pending next notBeforeMs =>
    obtain ⟨eligible, applied⟩ := seq_eq_ok.1 applied
    obtain ⟨named, applied⟩ := seq_eq_ok.1 applied
    obtain ⟨lasts, applied⟩ := seq_eq_ok.1 applied
    obtain ⟨fresh, applied⟩ := seq_eq_ok.1 applied
    obtain ⟨expiresAtMs, ends, applied⟩ := bind_eq_ok.1 applied
    cases applied
    simp only [rejectIf_eq_ok, Bool.or_eq_false_iff, decide_eq_false_iff_not,
      UInt64.not_lt, bne_eq_false_iff_eq] at eligible
    obtain ⟨eligible, rfl⟩ := eligible
    refine ⟨.claim eligible named lasts ?_ ends, rfl⟩
    simpa using fresh
  | _ => cases applied

theorem applied_moves {leaseId attempt receipt reconciled}
    (applied : applyProjectedKind status used ⟨sequence, commandId, commandSha256, now, actor,
      .applied leaseId attempt receipt reconciled⟩ = .ok (after, used')) :
    Moves used now actor status (.applied leaseId attempt receipt reconciled) after ∧ used' = used := by
  obtain ⟨valid, applied⟩ := seq_eq_ok.1 applied
  cases reconciled with
  | true =>
    obtain ⟨doubted, applied⟩ := seq_eq_ok.1 applied
    cases applied
    obtain ⟨reasonCode, rfl⟩ := validateUnknown_eq_ok.1 doubted
    exact ⟨.reconciledApplied valid, rfl⟩
  | false =>
    obtain ⟨lease, held, applied⟩ := bind_eq_ok.1 applied
    obtain ⟨attempted, applied⟩ := seq_eq_ok.1 applied
    cases applied
    obtain ⟨rfl, rfl, owned, active⟩ := activeProjectedLease_eq_ok.1 held
    rw [rejectIf_bne] at attempted
    subst attempted
    exact ⟨.applied owned active valid, rfl⟩

theorem notApplied_moves {leaseId attempt reasonCode retryAtMs reconciled}
    (applied : applyProjectedKind status used ⟨sequence, commandId, commandSha256, now, actor,
      .notApplied leaseId attempt reasonCode retryAtMs reconciled⟩ = .ok (after, used')) :
    Moves used now actor status (.notApplied leaseId attempt reasonCode retryAtMs reconciled)
      after ∧ used' = used := by
  obtain ⟨reason, applied⟩ := seq_eq_ok.1 applied
  obtain ⟨retry, applied⟩ := seq_eq_ok.1 applied
  cases reconciled with
  | true =>
    obtain ⟨doubted, applied⟩ := seq_eq_ok.1 applied
    obtain ⟨next, settled, applied⟩ := bind_eq_ok.1 applied
    cases applied
    obtain ⟨doubt, rfl⟩ := validateUnknown_eq_ok.1 doubted
    exact ⟨.reconciledNotApplied reason retry settled, rfl⟩
  | false =>
    obtain ⟨lease, held, applied⟩ := bind_eq_ok.1 applied
    obtain ⟨attempted, applied⟩ := seq_eq_ok.1 applied
    obtain ⟨next, settled, applied⟩ := bind_eq_ok.1 applied
    cases applied
    obtain ⟨rfl, rfl, owned, active⟩ := activeProjectedLease_eq_ok.1 held
    rw [rejectIf_bne] at attempted
    subst attempted
    exact ⟨.notApplied owned active reason retry settled, rfl⟩

theorem becameUnknown_moves {leaseId attempt reasonCode expired}
    (applied : applyProjectedKind status used ⟨sequence, commandId, commandSha256, now, actor,
      .becameUnknown leaseId attempt reasonCode expired⟩ = .ok (after, used')) :
    Moves used now actor status (.becameUnknown leaseId attempt reasonCode expired) after ∧
      used' = used := by
  obtain ⟨reason, applied⟩ := seq_eq_ok.1 applied
  cases status with
  | claimed lease =>
    obtain ⟨held, applied⟩ := seq_eq_ok.1 applied
    rw [rejectIf_eq_ok, Bool.or_eq_false_iff, bne_eq_false_iff_eq,
      bne_eq_false_iff_eq] at held
    obtain ⟨rfl, rfl⟩ := held
    cases expired with
    | true =>
      obtain ⟨lapsed, applied⟩ := seq_eq_ok.1 applied
      cases applied
      rw [rejectIf_eq_ok, Bool.or_eq_false_iff, bne_eq_false_iff_eq,
        decide_eq_false_iff_not, UInt64.not_lt] at lapsed
      obtain ⟨rfl, lapsed⟩ := lapsed
      exact ⟨.expired lapsed, rfl⟩
    | false =>
      obtain ⟨reports, applied⟩ := seq_eq_ok.1 applied
      cases applied
      rw [rejectIf_eq_ok, Bool.or_eq_false_iff, bne_eq_false_iff_eq,
        decide_eq_false_iff_not, UInt64.not_le] at reports
      exact ⟨.reported reports.1 reports.2 reason, rfl⟩
  | _ => cases applied

theorem moves_of_applyProjectedKind
    (applied : applyProjectedKind status used t = .ok (after, used')) :
    Moves used t.appliedAtMs t.actor status t.kind after ∧ used' = t.kind.uses used := by
  obtain ⟨sequence, commandId, commandSha256, now, actor, kind⟩ := t
  cases kind with
  | created => cases applied
  | claimed => exact claimed_moves applied
  | leaseRenewed leaseId leaseDurationMs previousExpiresAtMs =>
    obtain ⟨lasts, applied⟩ := seq_eq_ok.1 applied
    obtain ⟨lease, held, applied⟩ := bind_eq_ok.1 applied
    obtain ⟨previous, applied⟩ := seq_eq_ok.1 applied
    obtain ⟨expiresAtMs, ends, applied⟩ := bind_eq_ok.1 applied
    obtain ⟨longer, applied⟩ := seq_eq_ok.1 applied
    cases applied
    obtain ⟨rfl, rfl, owned, active⟩ := activeProjectedLease_eq_ok.1 held
    rw [rejectIf_bne] at previous
    subst previous
    rw [rejectIf_decide, UInt64.not_le] at longer
    exact ⟨.renew owned active lasts ends longer, rfl⟩
  | applied => exact applied_moves applied
  | notApplied => exact notApplied_moves applied
  | becameUnknown => exact becameUnknown_moves applied
  | cancelled reasonCode =>
    obtain ⟨reason, applied⟩ := seq_eq_ok.1 applied
    split at applied
    · cases applied
      exact ⟨.cancel reason, rfl⟩
    · cases applied

theorem applyProjectedKind_of_moves
    (moves : Moves used t.appliedAtMs t.actor status t.kind after) :
    applyProjectedKind status used t = .ok (after, t.kind.uses used) := by
  obtain ⟨sequence, commandId, commandSha256, now, actor, kind⟩ := t
  dsimp only at moves
  cases moves with
  | claim eligible named lasts fresh ends =>
    refine seq_eq_ok.2 ⟨?_, seq_eq_ok.2 ⟨named, seq_eq_ok.2 ⟨lasts, seq_eq_ok.2 ⟨?_,
      bind_eq_ok.2 ⟨_, ends, rfl⟩⟩⟩⟩⟩
    · simpa using eligible
    · simpa using fresh
  | renew owned active lasts ends longer =>
    refine seq_eq_ok.2 ⟨lasts, bind_eq_ok.2 ⟨_, activeProjectedLease_held owned active,
      seq_eq_ok.2 ⟨?_, bind_eq_ok.2 ⟨_, ends, seq_eq_ok.2 ⟨?_, rfl⟩⟩⟩⟩⟩
    · rw [rejectIf_eq_ok, bne_self_eq_false]
    · simpa using longer
  | applied owned active valid =>
    refine seq_eq_ok.2 ⟨valid, bind_eq_ok.2 ⟨_, activeProjectedLease_held owned active,
      seq_eq_ok.2 ⟨?_, rfl⟩⟩⟩
    rw [rejectIf_eq_ok, bne_self_eq_false]
  | notApplied owned active reason retry settled =>
    refine seq_eq_ok.2 ⟨reason, seq_eq_ok.2 ⟨retry, bind_eq_ok.2 ⟨_,
      activeProjectedLease_held owned active, seq_eq_ok.2 ⟨?_,
        bind_eq_ok.2 ⟨_, settled, rfl⟩⟩⟩⟩⟩
    rw [rejectIf_eq_ok, bne_self_eq_false]
  | reported owned active reason =>
    refine seq_eq_ok.2 ⟨reason, seq_eq_ok.2 ⟨?_, seq_eq_ok.2 ⟨?_, rfl⟩⟩⟩
    · simp
    · simpa using ⟨owned, active⟩
  | expired lapsed =>
    refine seq_eq_ok.2 ⟨by decide +kernel, seq_eq_ok.2 ⟨?_, seq_eq_ok.2 ⟨?_, rfl⟩⟩⟩
    · simp
    · simpa using lapsed
  | reconciledApplied valid =>
    exact seq_eq_ok.2 ⟨valid, seq_eq_ok.2 ⟨validateUnknown_eq_ok.2 ⟨_, rfl⟩, rfl⟩⟩
  | reconciledNotApplied reason retry settled =>
    exact seq_eq_ok.2 ⟨reason, seq_eq_ok.2 ⟨retry, seq_eq_ok.2
      ⟨validateUnknown_eq_ok.2 ⟨_, rfl⟩, bind_eq_ok.2 ⟨_, settled, rfl⟩⟩⟩⟩
  | cancel reason => exact seq_eq_ok.2 ⟨reason, rfl⟩

theorem applyProjectedKind_eq_ok :
    applyProjectedKind status used t = .ok (after, used') ↔
      Moves used t.appliedAtMs t.actor status t.kind after ∧ used' = t.kind.uses used := by
  refine ⟨moves_of_applyProjectedKind, ?_⟩
  rintro ⟨moves, rfl⟩
  exact applyProjectedKind_of_moves moves

end Projected

/-! ## Histories -/

/-- The leases that transitions claim, the latest first. -/
def usedLeases (past : List EffectTransition) : List EffectLeaseId :=
  (past.filterMap EffectTransition.claimedLease).reverse

def lastTime (past : List EffectTransition) : UInt64 :=
  (past.getLast?.map EffectTransition.appliedAtMs).getD 0

@[simp] theorem lastTime_concat (past : List EffectTransition) (t : EffectTransition) :
    lastTime (past ++ [t]) = t.appliedAtMs := by
  simp [lastTime]

@[simp] theorem usedLeases_concat (past : List EffectTransition) (t : EffectTransition) :
    usedLeases (past ++ [t]) = t.kind.uses (usedLeases past) := by
  rw [usedLeases, List.filterMap_append, List.reverse_append]
  cases kind : t.kind <;>
    simp [usedLeases, EffectTransition.claimedLease, EffectTransitionKind.uses, kind]

theorem mem_usedLeases :
    leaseId ∈ usedLeases past ↔ ∃ t ∈ past, t.claimedLease = some leaseId := by
  rw [usedLeases, List.mem_reverse, List.mem_filterMap]

variable [Sha256]

/-- What a replay checks of every transition, whatever it does. -/
structure Recorded (tenantId : Option String) (past : List EffectTransition)
    (t : EffectTransition) : Prop where
  sequence : nextSequence past.length = .ok t.sequence
  commandId : validateIdentity "Effect command" t.commandId = .ok ()
  time : validateApplicationTime t.appliedAtMs = .ok ()
  ordered : lastTime past ≤ t.appliedAtMs
  actor : validateActor t.actor = .ok ()
  digest : transitionDigest t tenantId = .ok t.commandSha256
  fresh : t.commandId ∉ past.map (·.commandId)

/-- The first transition and what it projects to. -/
structure Creation (t : EffectTransition) (p : EffectProjection) : Prop where
  kind : ∃ notBeforeMs, t.kind = .created p.tenantId p.operation p.idempotencyKey p.input
    p.inputSha256 notBeforeMs ∧ p.status = .pending 1 notBeforeMs ∧
    validateApplicationTime notBeforeMs = .ok ()
  operation : validateOperation p.operation = .ok ()
  tenant : validateTenant p.tenantId = .ok ()
  key : validateIdentity "Effect idempotency key" p.idempotencyKey = .ok ()
  input : valueSha256 p.input = .ok p.inputSha256
  createdAt : p.createdAtMs = t.appliedAtMs

/-- The transitions are a history that projects to a record: only the status moves. -/
abbrev Replays (tenantId : Option String) : List EffectTransition → EffectProjection → Prop :=
  Lib.Replays (Recorded tenantId) Creation fun past p t p' =>
    ∃ status, Moves (usedLeases past) t.appliedAtMs t.actor p.status t.kind status ∧
      p' = { p with status }

/-! ## Digests -/

theorem attributedDigest_eq_ok {command : Json} :
    attributedDigest actor tenantId command = .ok digest ↔
      validateActor actor = .ok () ∧ validateTenant tenantId = .ok () ∧
        (attributedCommand actor tenantId command).encodedLen ≤ maxEffectCommandJsonBytes ∧
        digest = Sha256.digest (.json (attributedCommand actor tenantId command)) := by
  have positive : ((attributedCommand actor tenantId command).encodedLen == 0) = false := by
    rw [attributedCommand, Json.encodedLen, beq_eq_false_iff_ne]
    omega
  simp only [attributedDigest, seq_eq_ok, bind_eq_ok (α := Nat), mapError_eq_ok,
    boundedSerializedSize_eq_ok, rejectIf_eq_ok, ok_eq_ok]
  constructor
  · rintro ⟨actor, tenant, size, ⟨fits, rfl⟩, _, rfl⟩
    exact ⟨actor, tenant, fits, rfl⟩
  · rintro ⟨actor, tenant, fits, rfl⟩
    exact ⟨actor, tenant, _, ⟨fits, rfl⟩, positive, rfl⟩

/-- What a transition that is not a creation commits to. -/
theorem transitionDigest_of_command {command : EffectCommandKind}
    (recorded : transitionCommandKind t.kind = .ok command) :
    transitionDigest t tenantId =
      attributedDigest t.actor tenantId (EffectCommand.toJson ⟨t.commandId, command⟩) := by
  obtain ⟨sequence, commandId, commandSha256, now, actor, kind⟩ := t
  cases kind with
  | created => cases recorded
  | _ => exact congrArg (· >>= _) recorded

theorem transitionDigest_lower (computed : transitionDigest t tenantId = .ok digest) :
    isLowerSha256 digest = true := by
  have attributed : ∃ command, attributedDigest t.actor tenantId command = .ok digest := by
    obtain ⟨sequence, commandId, commandSha256, now, actor, kind⟩ := t
    cases kind with
    | created => exact ⟨_, (seq_eq_ok.1 computed).2⟩
    | _ =>
      obtain ⟨command, _, computed⟩ := bind_eq_ok.1 computed
      exact ⟨_, computed⟩
  obtain ⟨command, attributed⟩ := attributed
  obtain ⟨_, _, _, rfl⟩ := attributedDigest_eq_ok.1 attributed
  exact Sha256.digest_lower _

theorem valueSha256_eq_ok {value : Json} :
    valueSha256 value = .ok digest ↔
      validateInput value = .ok () ∧ digest = Sha256.digest (.json value) := by
  rw [valueSha256, seq_eq_ok, ok_eq_ok]

/-! ## The replay path is the relation -/

/-- The loop state after a history. -/
def Replay.after (past : List EffectTransition) (projection : Option EffectProjection) : Replay :=
  ⟨projection, (past.map (·.commandId)).reverse, usedLeases past, lastTime past⟩

theorem Replay.step_after {projection : Option EffectProjection} :
    (Replay.after past projection).step tenantId t = .ok r ↔
      Recorded tenantId past t ∧ ∃ p used,
        applyProjectionTransition projection (usedLeases past) t = .ok (p, used) ∧
        r = ⟨some p, ((past ++ [t]).map (·.commandId)).reverse, used, t.appliedAtMs⟩ := by
  have ids : ((past ++ [t]).map (·.commandId)).reverse =
      t.commandId :: (past.map (·.commandId)).reverse := by simp
  have listed : (past.map (·.commandId)).reverse.contains t.commandId = false ↔
      t.commandId ∉ past.map (·.commandId) := by
    rw [← Bool.not_eq_true, List.contains_iff_mem, List.mem_reverse]
  rw [ids]
  constructor
  · intro stepped
    obtain ⟨sequence, counted, stepped⟩ := bind_eq_ok.1 stepped
    obtain ⟨same, stepped⟩ := seq_eq_ok.1 stepped
    obtain ⟨commandId, stepped⟩ := seq_eq_ok.1 stepped
    replace stepped := rest_ok stepped
    obtain ⟨time, stepped⟩ := seq_eq_ok.1 stepped
    obtain ⟨ordered, stepped⟩ := seq_eq_ok.1 stepped
    obtain ⟨actor, stepped⟩ := seq_eq_ok.1 stepped
    obtain ⟨digest, computed, stepped⟩ := bind_eq_ok.1 stepped
    obtain ⟨matched, stepped⟩ := seq_eq_ok.1 stepped
    obtain ⟨fresh, stepped⟩ := seq_eq_ok.1 stepped
    obtain ⟨⟨p, used⟩, applied, stepped⟩ := bind_eq_ok.1 stepped
    cases stepped
    rw [rejectIf_bne] at same matched
    rw [rejectIf_decide, UInt64.not_lt] at ordered
    rw [rejectIf_eq_ok] at fresh
    simp only [Replay.after, List.length_reverse, List.length_map] at counted
    subst same matched
    exact ⟨⟨counted, commandId, time, ordered, actor, computed, listed.1 fresh⟩, p, used, applied,
      rfl⟩
  · rintro ⟨recorded, p, used, applied, rfl⟩
    have counted : nextSequence (past.map (·.commandId)).reverse.length = .ok t.sequence := by
      rw [List.length_reverse, List.length_map]
      exact recorded.sequence
    have lower : validateDigest t.commandSha256 "command" = .ok () := by
      rw [validateDigest, rejectIf_eq_ok, transitionDigest_lower recorded.digest]
      rfl
    refine bind_eq_ok.2 ⟨_, counted, ?_⟩
    refine seq_eq_ok.2 ⟨by rw [rejectIf_eq_ok, bne_self_eq_false], ?_⟩
    refine seq_eq_ok.2 ⟨recorded.commandId, seq_eq_ok.2 ⟨lower, seq_eq_ok.2 ⟨recorded.time, ?_⟩⟩⟩
    refine seq_eq_ok.2 ⟨?_, seq_eq_ok.2 ⟨recorded.actor, ?_⟩⟩
    · rw [rejectIf_decide, UInt64.not_lt]
      exact recorded.ordered
    refine bind_eq_ok.2 ⟨_, recorded.digest, ?_⟩
    refine seq_eq_ok.2 ⟨by rw [rejectIf_eq_ok, bne_self_eq_false], ?_⟩
    refine seq_eq_ok.2 ⟨?_, bind_eq_ok.2 ⟨_, applied, rfl⟩⟩
    rw [rejectIf_eq_ok]
    exact listed.2 recorded.fresh

/-- A creation is accepted first. -/
theorem applyProjectionTransition_none (first : t.sequence = 1) :
    applyProjectionTransition none used t = .ok (p, used') ↔ Creation t p ∧ used' = used := by
  obtain ⟨sequence, commandId, commandSha256, now, actor, kind⟩ := t
  obtain rfl : sequence = 1 := first
  constructor
  · intro applied
    cases kind with
    | created tenantId operation idempotencyKey input inputSha256 notBeforeMs =>
      replace applied := rest_ok applied
      obtain ⟨operates, applied⟩ := seq_eq_ok.1 applied
      obtain ⟨tenant, applied⟩ := seq_eq_ok.1 applied
      obtain ⟨key, applied⟩ := seq_eq_ok.1 applied
      replace applied := rest_ok (rest_ok applied)
      obtain ⟨digest, hashed, applied⟩ := bind_eq_ok.1 applied
      obtain ⟨same, applied⟩ := seq_eq_ok.1 applied
      obtain ⟨time, applied⟩ := seq_eq_ok.1 applied
      cases applied
      rw [rejectIf_bne] at same
      subst same
      exact ⟨⟨⟨notBeforeMs, rfl, rfl, time⟩, operates, tenant, key, hashed, rfl⟩, rfl⟩
    | _ => cases applied
  · rintro ⟨⟨⟨notBeforeMs, shape, status, time⟩, operates, tenant, key, hashed, createdAt⟩, rfl⟩
    obtain ⟨tenantId, operation, idempotencyKey, input, inputSha256, createdAtMs, status'⟩ := p
    obtain rfl : kind = _ := shape
    obtain rfl : status' = _ := status
    obtain rfl : createdAtMs = now := createdAt
    obtain ⟨accepted, digested⟩ := valueSha256_eq_ok.1 hashed
    have lower : validateDigest inputSha256 "input" = .ok () := by
      rw [validateDigest, rejectIf_eq_ok, show inputSha256 = _ from digested, Sha256.digest_lower]
      rfl
    refine seq_eq_ok.2 ⟨rfl, seq_eq_ok.2 ⟨operates, seq_eq_ok.2 ⟨tenant, seq_eq_ok.2 ⟨key, ?_⟩⟩⟩⟩
    refine seq_eq_ok.2 ⟨accepted, seq_eq_ok.2 ⟨lower, bind_eq_ok.2 ⟨_, hashed, ?_⟩⟩⟩
    exact seq_eq_ok.2 ⟨by rw [rejectIf_eq_ok, bne_self_eq_false], seq_eq_ok.2 ⟨time, rfl⟩⟩

/-- Every later transition moves the status. -/
theorem applyProjectionTransition_some {p next : EffectProjection} :
    applyProjectionTransition (some p) used t = .ok (next, used') ↔
      ∃ status, Moves used t.appliedAtMs t.actor p.status t.kind status ∧
        next = { p with status } ∧ used' = t.kind.uses used := by
  have moved : (applyProjectedKind p.status used t >>= fun applied =>
      (.ok ({ p with status := applied.1 }, applied.2) : Except HarnessError _)) =
        .ok (next, used') ↔
      ∃ status, Moves used t.appliedAtMs t.actor p.status t.kind status ∧
        next = { p with status } ∧ used' = t.kind.uses used := by
    constructor
    · intro applied
      obtain ⟨⟨status, later⟩, kind, applied⟩ := bind_eq_ok.1 applied
      cases applied
      obtain ⟨moves, uses⟩ := applyProjectedKind_eq_ok.1 kind
      exact ⟨status, moves, rfl, uses⟩
    · rintro ⟨status, moves, rfl, rfl⟩
      exact bind_eq_ok.2 ⟨_, applyProjectedKind_eq_ok.2 ⟨moves, rfl⟩, rfl⟩
  obtain ⟨sequence, commandId, commandSha256, now, actor, kind⟩ := t
  cases kind with
  | created =>
    constructor
    · intro applied
      cases (seq_eq_ok.1 applied).1
    · rintro ⟨status, moves, _⟩
      generalize p.status = before at moves
      cases moves
  | _ => exact moved

theorem Creation.uses (creation : Creation t p) (used : List EffectLeaseId) :
    t.kind.uses used = used := by
  obtain ⟨_, kind, _⟩ := creation.kind
  rw [kind]
  rfl

theorem Recorded.first {tenantId : Option String} {t : EffectTransition}
    (recorded : Recorded tenantId [] t) : t.sequence = 1 := by
  have counted := recorded.sequence
  rw [List.length_nil] at counted
  exact ok_eq_ok.1 counted

theorem Replay.step_start :
    Replay.start.step tenantId t = .ok r ↔
      ∃ p, Recorded tenantId [] t ∧ Creation t p ∧ r = Replay.after [t] (some p) := by
  have after : ∀ p, Creation t p → Replay.after [t] (some p) =
      ⟨some p, (([] ++ [t]).map fun s : EffectTransition => s.commandId).reverse, usedLeases [],
        t.appliedAtMs⟩ := by
    intro p creation
    have used := usedLeases_concat [] t
    rw [creation.uses] at used
    rw [Replay.after, ← used]
    rfl
  show (Replay.after [] none).step tenantId t = .ok r ↔ _
  rw [Replay.step_after]
  constructor
  · rintro ⟨recorded, p, used, applied, rfl⟩
    obtain ⟨creation, rfl⟩ := (applyProjectionTransition_none recorded.first).1 applied
    exact ⟨p, recorded, creation, (after p creation).symm⟩
  · rintro ⟨p, recorded, creation, rfl⟩
    exact ⟨recorded, p, _, (applyProjectionTransition_none recorded.first).2 ⟨creation, rfl⟩,
      after p creation⟩

theorem Replay.step_some :
    (Replay.after past (some p)).step tenantId t = .ok r ↔
      ∃ status, Recorded tenantId past t ∧
        Moves (usedLeases past) t.appliedAtMs t.actor p.status t.kind status ∧
        r = Replay.after (past ++ [t]) (some { p with status }) := by
  rw [Replay.step_after]
  constructor
  · rintro ⟨recorded, q, used, applied, rfl⟩
    obtain ⟨status, moves, rfl, rfl⟩ := applyProjectionTransition_some.1 applied
    refine ⟨status, recorded, moves, ?_⟩
    rw [Replay.after, usedLeases_concat, lastTime_concat]
  · rintro ⟨status, recorded, moves, rfl⟩
    refine ⟨recorded, _, _, applyProjectionTransition_some.2 ⟨status, moves, rfl, rfl⟩, ?_⟩
    rw [Replay.after, usedLeases_concat, lastTime_concat]

/-- **The replay path.**  A nonempty list of transitions is accepted exactly when
it is a history. -/
theorem replay_eq_ok {ts : List EffectTransition} :
    Replay.run tenantId ts = .ok r ↔
      (ts = [] ∧ r = Replay.start) ∨
        ∃ p, Replays tenantId ts p ∧ r = Replay.after ts (some p) := by
  refine Lib.Replays.foldlM_eq_ok (fun past p => Replay.after past (some p)) Replay.step_start
    fun {past p t b} _ => ?_
  rw [Replay.step_some]
  constructor
  · rintro ⟨status, recorded, moves, rfl⟩
    exact ⟨_, recorded, ⟨status, moves, rfl⟩, rfl⟩
  · rintro ⟨_, recorded, ⟨status, moves, rfl⟩, rfl⟩
    exact ⟨status, recorded, moves, rfl⟩

/-! ## What a history fixes -/

namespace Replays

variable {tenantId : Option String} {ts : List EffectTransition} {p : EffectProjection}

/-- A history begins with the creation of what it projects to. -/
theorem creation (replays : Replays tenantId ts p) :
    ∃ t rest status, ts = t :: rest ∧ Recorded tenantId [] t ∧ Creation t { p with status } := by
  obtain ⟨t, rest, _, split, recorded, creation, status, rfl⟩ := Lib.Replays.creation
    (fun first p => ∃ status, first = { p with status }) (fun p => ⟨p.status, rfl⟩)
    (fun ⟨status, kept⟩ ⟨_, _, moved⟩ => ⟨status, by rw [kept, moved]⟩) replays
  exact ⟨t, rest, status, split, recorded, creation⟩

theorem tenant (replays : Replays tenantId ts p) : p.tenantId = tenantId := by
  obtain ⟨t, _, status, _, recorded, creation⟩ := replays.creation
  obtain ⟨notBeforeMs, kind, _⟩ := creation.kind
  obtain ⟨sequence, commandId, commandSha256, now, actor, shape⟩ := t
  obtain rfl : shape = _ := kind
  have digest := (seq_eq_ok.1 recorded.digest).1
  rw [rejectIf_bne] at digest
  exact digest

end Replays

/-- **What `validate` accepts**: a history of at most 4096 transitions that
projects to the record. -/
theorem Effect.validate_eq_ok {e : Effect} :
    e.validate = .ok () ↔ e.transitions.length ≤ maxEffectTransitions ∧
      Replays e.tenantId e.transitions e.projection := by
  constructor
  · intro valid
    iterate 5 replace valid := rest_ok valid
    obtain ⟨_, _, valid⟩ := bind_eq_ok.1 valid
    replace valid := rest_ok (rest_ok valid)
    obtain ⟨count, valid⟩ := seq_eq_ok.1 valid
    obtain ⟨replayed, ran, valid⟩ := bind_eq_ok.1 valid
    obtain ⟨projected, found, matched⟩ := bind_eq_ok.1 valid
    rw [rejectIf_eq_ok, Bool.or_eq_false_iff, decide_eq_false_iff_not, not_lt] at count
    rw [rejectIf_bne] at matched
    rcases replay_eq_ok.1 ran with ⟨empty, _⟩ | ⟨p, replays, rfl⟩
    · rw [empty] at count
      cases count.1
    · rw [orError_eq_ok] at found
      obtain rfl := Option.some.inj found
      exact ⟨count.2, matched ▸ replays⟩
  · rintro ⟨count, replays⟩
    obtain ⟨t, _, status, _, recorded, creation⟩ := replays.creation
    obtain ⟨accepted, digested⟩ := valueSha256_eq_ok.1 creation.input
    have lower : validateDigest e.inputSha256 "input" = .ok () := by
      rw [validateDigest, rejectIf_eq_ok, show e.inputSha256 = _ from digested,
        Sha256.digest_lower]
      rfl
    have created : validateApplicationTime e.createdAtMs = .ok () := by
      rw [show e.createdAtMs = _ from creation.createdAt]
      exact recorded.time
    refine seq_eq_ok.2 ⟨creation.tenant, seq_eq_ok.2 ⟨creation.operation, ?_⟩⟩
    refine seq_eq_ok.2 ⟨creation.key, seq_eq_ok.2 ⟨accepted, seq_eq_ok.2 ⟨lower, ?_⟩⟩⟩
    refine bind_eq_ok.2 ⟨_, creation.input, ?_⟩
    refine seq_eq_ok.2 ⟨?_, seq_eq_ok.2 ⟨created, seq_eq_ok.2 ⟨?_, ?_⟩⟩⟩
    · rw [rejectIf_eq_ok]
      exact bne_self_eq_false _
    · rw [rejectIf_eq_ok, Bool.or_eq_false_iff, decide_eq_false_iff_not, not_lt]
      exact ⟨by simpa using replays.ne_nil, count⟩
    · refine bind_eq_ok.2 ⟨_, replay_eq_ok.2 (.inr ⟨_, replays, rfl⟩), ?_⟩
      refine bind_eq_ok.2 ⟨_, rfl, ?_⟩
      rw [rejectIf_eq_ok, bne_self_eq_false]

end YHarness.Effects

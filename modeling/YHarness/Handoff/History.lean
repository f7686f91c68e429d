/-
# YHarness.Handoff.History -- the histories a Human Handoff may have

`Moves` says what one transition does to the status of a Handoff, and `Replays`
which lists of transitions are histories and what they project to.  The replay path
is this relation: `validate_eq_ok` reads an accepted Handoff as a history of at most
4098 transitions that projects to the record.
-/
import YHarness.Handoff.Aggregate
import YHarness.Lib.Ledger

namespace YHarness.Handoff

open YHarness.Lib YHarness.Kernel

set_option autoImplicit false

/-! ## Identities of a history -/

/-- The claim a transition opens. -/
def HumanHandoffTransitionKind.claim? : HumanHandoffTransitionKind → Option HumanHandoffClaimId
  | claimed claimId _ => some claimId
  | _ => none

/-- The claims of a history, in order. -/
def claimsOf (past : List HumanHandoffTransition) : List HumanHandoffClaimId :=
  past.filterMap fun t => t.kind.claim?

def lastTime (past : List HumanHandoffTransition) : UInt64 :=
  (past.getLast?.map HumanHandoffTransition.appliedAtMs).getD 0

@[simp] theorem lastTime_concat (past : List HumanHandoffTransition) (t : HumanHandoffTransition) :
    lastTime (past ++ [t]) = t.appliedAtMs := by
  simp [lastTime]

theorem claimsOf_concat (past : List HumanHandoffTransition) (t : HumanHandoffTransition) :
    claimsOf (past ++ [t]) = claimsOf past ++ t.kind.claim?.toList := by
  rw [claimsOf, List.filterMap_append]
  cases opened : t.kind.claim? <;> simp [claimsOf, opened]

/-! ## One transition -/

/-- What a transition of an actor at a time may do to a status, when the given claims
were used before. -/
inductive Moves (used : List HumanHandoffClaimId) (now : UInt64) (actor : ActorIdentity) :
    HumanHandoffStatus → HumanHandoffTransitionKind → HumanHandoffStatus → Prop
  | claim {claimId : HumanHandoffClaimId} {leaseDurationMs expiresAtMs : UInt64}
      (named : validateIdentity "Human Handoff claim" claimId = .ok ())
      (lasts : validateLeaseDuration leaseDurationMs = .ok ()) (fresh : claimId ∉ used)
      (ends : leaseExpiration now leaseDurationMs = .ok expiresAtMs) :
      Moves used now actor .queued (.claimed claimId leaseDurationMs)
        (.claimed ⟨claimId, actor, now, expiresAtMs⟩)
  | renew {claim : HumanHandoffClaim} {leaseDurationMs expiresAtMs : UInt64}
      (owned : claim.owner = actor) (active : now < claim.expiresAtMs)
      (lasts : validateLeaseDuration leaseDurationMs = .ok ())
      (ends : leaseExpiration now leaseDurationMs = .ok expiresAtMs)
      (longer : claim.expiresAtMs < expiresAtMs) :
      Moves used now actor (.claimed claim)
        (.claimRenewed claim.id leaseDurationMs claim.expiresAtMs)
        (.claimed { claim with expiresAtMs })
  | release {claim : HumanHandoffClaim} {reasonCode : String} (owned : claim.owner = actor)
      (active : now < claim.expiresAtMs)
      (reason : validateCapabilityName "Human Handoff release reason" reasonCode = .ok ()) :
      Moves used now actor (.claimed claim) (.claimReleased claim.id reasonCode) .queued
  | expire {claim : HumanHandoffClaim} (lapsed : claim.expiresAtMs ≤ now) :
      Moves used now actor (.claimed claim) (.claimExpired claim.id) .queued
  | resolve {claim : HumanHandoffClaim} {outcomeCode summary : String}
      (owned : claim.owner = actor) (active : now < claim.expiresAtMs)
      (outcome : validateCapabilityName "Human Handoff outcome" outcomeCode = .ok ())
      (text : validateText "Human Handoff resolution summary" summary = .ok ()) :
      Moves used now actor (.claimed claim) (.resolved claim.id outcomeCode summary)
        (.resolved outcomeCode summary)
  | cancel {status : HumanHandoffStatus} {reasonCode : String} (live : status.isTerminal = false)
      (reason : validateCapabilityName "Human Handoff cancellation reason" reasonCode = .ok ()) :
      Moves used now actor status (.cancelled reasonCode) (.cancelled reasonCode)

section Moves

variable {used used' : List HumanHandoffClaimId} {now : UInt64} {actor : ActorIdentity}
  {status after : HumanHandoffStatus} {kind : HumanHandoffTransitionKind}

/-- A move only asks which claims were used. -/
theorem Moves.congr (same : ∀ id, id ∈ used' → id ∈ used)
    (moves : Moves used now actor status kind after) :
    Moves used' now actor status kind after := by
  cases moves with
  | claim named lasts fresh ends => exact .claim named lasts (fun again => fresh (same _ again)) ends
  | renew owned active lasts ends longer => exact .renew owned active lasts ends longer
  | release owned active reason => exact .release owned active reason
  | expire lapsed => exact .expire lapsed
  | resolve owned active outcome text => exact .resolve owned active outcome text
  | cancel live reason => exact .cancel live reason

/-- Nothing moves a terminal Handoff. -/
theorem Moves.live (moves : Moves used now actor status kind after) :
    status.isTerminal = false := by
  cases moves with
  | cancel live => exact live
  | _ => rfl

end Moves

theorem validateProjectedOwner_eq_ok {status : HumanHandoffStatus}
    {claimId : HumanHandoffClaimId} {actor : ActorIdentity} {now : UInt64} {action : String} :
    validateProjectedOwner (some status) claimId actor now action = .ok () ↔
      ∃ claim, status = .claimed claim ∧ claim.id = claimId ∧ claim.owner = actor ∧
        now < claim.expiresAtMs := by
  cases status with
  | claimed claim =>
    simp only [validateProjectedOwner, rejectIf_eq_ok, Bool.or_eq_false_iff,
      bne_eq_false_iff_eq, decide_eq_false_iff_not, UInt64.not_le,
      HumanHandoffStatus.claimed.injEq]
    constructor
    · rintro ⟨⟨named, owned⟩, active⟩
      exact ⟨claim, rfl, named, owned, active⟩
    · rintro ⟨_, rfl, named, owned, active⟩
      exact ⟨⟨named, owned⟩, active⟩
  | _ => simp [validateProjectedOwner]

namespace Replay

/-- The loop state after a transition that leads to a status. -/
def moved (r : Replay) (kind : HumanHandoffTransitionKind) (after : HumanHandoffStatus) : Replay :=
  { r with claimIds := kind.claim?.toList ++ r.claimIds, status := some after }

variable {r r' : Replay} {status after : HumanHandoffStatus} {t : HumanHandoffTransition}

theorem moves_of_applyKind (current : r.status = some status) (later : t.sequence ≠ 1)
    (applied : r.applyKind t = .ok r') :
    ∃ after, Moves r.claimIds t.appliedAtMs t.actor status t.kind after ∧
      r' = r.moved t.kind after := by
  obtain ⟨expected, commandIds, claimIds, request, _, time⟩ := r
  obtain rfl : _ = some status := current
  obtain ⟨sequence, commandId, commandSha256, now, actor, kind⟩ := t
  unfold applyKind at applied
  cases kind with
  | created =>
    have first := (seq_eq_ok.1 applied).1
    rw [rejectIf_bne] at first
    exact absurd first later
  | claimed claimId leaseDurationMs =>
    obtain ⟨queued, applied⟩ := seq_eq_ok.1 applied
    obtain ⟨named, applied⟩ := seq_eq_ok.1 applied
    obtain ⟨lasts, applied⟩ := seq_eq_ok.1 applied
    obtain ⟨fresh, applied⟩ := seq_eq_ok.1 applied
    obtain ⟨expiresAtMs, ends, applied⟩ := bind_eq_ok.1 applied
    cases applied
    rw [rejectIf_bne] at queued
    obtain rfl := Option.some.inj queued
    exact ⟨_, .claim named lasts (by simpa using fresh) ends, rfl⟩
  | claimRenewed claimId leaseDurationMs previousExpiresAtMs =>
    obtain ⟨lasts, applied⟩ := seq_eq_ok.1 applied
    dsimp only at applied
    split at applied
    · rename_i claim held
      obtain ⟨same, applied⟩ := seq_eq_ok.1 applied
      obtain ⟨expiresAtMs, ends, applied⟩ := bind_eq_ok.1 applied
      obtain ⟨longer, applied⟩ := seq_eq_ok.1 applied
      cases applied
      obtain rfl := Option.some.inj held
      rw [rejectIf_eq_ok, Bool.or_eq_false_iff, Bool.or_eq_false_iff, Bool.or_eq_false_iff,
        bne_eq_false_iff_eq, bne_eq_false_iff_eq, bne_eq_false_iff_eq,
        decide_eq_false_iff_not, UInt64.not_le] at same
      obtain ⟨⟨⟨rfl, owned⟩, rfl⟩, active⟩ := same
      rw [rejectIf_decide, UInt64.not_le] at longer
      exact ⟨_, .renew owned active lasts ends longer, rfl⟩
    · cases applied
  | claimReleased claimId reasonCode =>
    obtain ⟨reason, applied⟩ := seq_eq_ok.1 applied
    obtain ⟨owner, applied⟩ := seq_eq_ok.1 applied
    cases applied
    obtain ⟨claim, rfl, rfl, owned, active⟩ := validateProjectedOwner_eq_ok.1 owner
    exact ⟨_, .release owned active reason, rfl⟩
  | claimExpired claimId =>
    dsimp only at applied
    split at applied
    · rename_i claim held
      obtain ⟨same, applied⟩ := seq_eq_ok.1 applied
      cases applied
      obtain rfl := Option.some.inj held
      rw [rejectIf_eq_ok, Bool.or_eq_false_iff, bne_eq_false_iff_eq,
        decide_eq_false_iff_not, UInt64.not_lt] at same
      obtain ⟨rfl, lapsed⟩ := same
      exact ⟨_, .expire lapsed, rfl⟩
    · cases applied
  | resolved claimId outcomeCode summary =>
    obtain ⟨outcome, applied⟩ := seq_eq_ok.1 applied
    obtain ⟨text, applied⟩ := seq_eq_ok.1 applied
    obtain ⟨owner, applied⟩ := seq_eq_ok.1 applied
    cases applied
    obtain ⟨claim, rfl, rfl, owned, active⟩ := validateProjectedOwner_eq_ok.1 owner
    exact ⟨_, .resolve owned active outcome text, rfl⟩
  | cancelled reasonCode =>
    obtain ⟨live, applied⟩ := seq_eq_ok.1 applied
    obtain ⟨reason, applied⟩ := seq_eq_ok.1 applied
    cases applied
    exact ⟨_, .cancel (by simpa using live) reason, rfl⟩

theorem applyKind_of_moves (current : r.status = some status)
    (moves : Moves r.claimIds t.appliedAtMs t.actor status t.kind after) :
    r.applyKind t = .ok (r.moved t.kind after) := by
  obtain ⟨expected, commandIds, claimIds, request, _, time⟩ := r
  obtain rfl : _ = some status := current
  obtain ⟨sequence, commandId, commandSha256, now, actor, kind⟩ := t
  dsimp only at moves
  cases moves with
  | claim named lasts fresh ends =>
    refine seq_eq_ok.2 ⟨by rw [rejectIf_eq_ok, bne_self_eq_false], seq_eq_ok.2 ⟨named, ?_⟩⟩
    refine seq_eq_ok.2 ⟨lasts, seq_eq_ok.2 ⟨by simpa using fresh, ?_⟩⟩
    exact bind_eq_ok.2 ⟨_, ends, rfl⟩
  | renew owned active lasts ends longer =>
    refine seq_eq_ok.2 ⟨lasts, seq_eq_ok.2 ⟨?_, bind_eq_ok.2 ⟨_, ends, seq_eq_ok.2 ⟨?_, rfl⟩⟩⟩⟩
    · simp [owned, UInt64.not_le.2 active]
    · rw [rejectIf_decide, UInt64.not_le]
      exact longer
  | release owned active reason =>
    refine seq_eq_ok.2 ⟨reason, seq_eq_ok.2 ⟨?_, rfl⟩⟩
    exact validateProjectedOwner_eq_ok.2 ⟨_, rfl, rfl, owned, active⟩
  | expire lapsed =>
    refine seq_eq_ok.2 ⟨?_, rfl⟩
    rw [rejectIf_eq_ok, bne_self_eq_false, Bool.false_or, decide_eq_false_iff_not,
      UInt64.not_lt]
    exact lapsed
  | resolve owned active outcome text =>
    refine seq_eq_ok.2 ⟨outcome, seq_eq_ok.2 ⟨text, seq_eq_ok.2 ⟨?_, rfl⟩⟩⟩
    exact validateProjectedOwner_eq_ok.2 ⟨_, rfl, rfl, owned, active⟩
  | cancel live reason =>
    exact seq_eq_ok.2 ⟨by simpa using live, seq_eq_ok.2 ⟨reason, rfl⟩⟩

/-- **The replay path is the relation.** -/
theorem applyKind_eq_ok (current : r.status = some status) (later : t.sequence ≠ 1) :
    r.applyKind t = .ok r' ↔
      ∃ after, Moves r.claimIds t.appliedAtMs t.actor status t.kind after ∧
        r' = r.moved t.kind after := by
  refine ⟨moves_of_applyKind current later, ?_⟩
  rintro ⟨after, moves, rfl⟩
  exact applyKind_of_moves current moves

end Replay

/-! ## Histories -/

section Paths

variable [Sha256]

/-- What a replay checks of every transition, whatever it does. -/
structure Recorded (past : List HumanHandoffTransition) (t : HumanHandoffTransition) : Prop where
  sequence : t.sequence = UInt64.ofNat (past.length + 1)
  counted : past.length + 2 < UInt64.size
  commandId : validateIdentity "Human Handoff command" t.commandId = .ok ()
  time : validateApplicationTime t.appliedAtMs = .ok ()
  ordered : lastTime past ≤ t.appliedAtMs
  actor : validateActor t.actor = .ok ()
  digest : transitionDigest t = .ok t.commandSha256
  room : t.kind.capacityClass = .work → past.length < maxHandoffWorkTransitions
  fresh : t.commandId ∉ past.map (·.commandId)

/-- The first transition and the request it records. -/
structure Creation (t : HumanHandoffTransition) (request : HandoffRequest) : Prop where
  kind : t.kind = .created request.subject request.queue request.reasonCode request.priority
  time : request.requestedAtMs = t.appliedAtMs
  subject : validateSubject request.subject = .ok ()
  queue : validateCapabilityName "Human Handoff queue" request.queue = .ok ()
  reason : validateCapabilityName "Human Handoff reason" request.reasonCode = .ok ()

/-- The transitions are a history of a request that projects to a status. -/
abbrev Replays (request : HandoffRequest) :
    List HumanHandoffTransition → HumanHandoffStatus → Prop :=
  Lib.Replays Recorded (fun t status => Creation t request ∧ status = .queued)
    fun past status t after => Moves (claimsOf past) t.appliedAtMs t.actor status t.kind after

theorem attributedDigest_eq_ok {actor : ActorIdentity} {command : Json} {digest : String} :
    attributedDigest actor command = .ok digest ↔
      validateActor actor = .ok () ∧
        (attributedCommand actor command).encodedLen ≤ maxHandoffCommandJsonBytes ∧
        digest = Sha256.digest (.json (attributedCommand actor command)) := by
  have positive : ((attributedCommand actor command).encodedLen == 0) = false := by
    rw [beq_eq_false_iff_ne, attributedCommand, Json.encodedLen]
    omega
  constructor
  · intro digested
    obtain ⟨valid, digested⟩ := seq_eq_ok.1 digested
    obtain ⟨size, sized, digested⟩ := bind_eq_ok.1 digested
    replace digested := rest_ok digested
    cases digested
    exact ⟨valid, (boundedSerializedSize_eq_ok.1 (mapError_eq_ok.1 sized)).1, rfl⟩
  · rintro ⟨valid, fits, rfl⟩
    have sized := boundedSerializedSize_eq_ok.2 ⟨fits, rfl⟩
    refine seq_eq_ok.2 ⟨valid, bind_eq_ok.2 ⟨_, mapError_eq_ok.2 sized, seq_eq_ok.2 ⟨?_, rfl⟩⟩⟩
    rw [rejectIf_eq_ok]
    exact positive

theorem Recorded.lower {past : List HumanHandoffTransition} {t : HumanHandoffTransition}
    (recorded : Recorded past t) : validateDigest t.commandSha256 = .ok () := by
  obtain ⟨_, _, digested⟩ := attributedDigest_eq_ok.1 recorded.digest
  rw [validateDigest, rejectIf_eq_ok, digested, Sha256.digest_lower]
  rfl

section Replays

variable {request : HandoffRequest} {ts : List HumanHandoffTransition}
  {status : HumanHandoffStatus}

theorem Replays.small (replays : Replays request ts status) : ts.length + 1 < UInt64.size := by
  obtain ⟨past, t, rfl, recorded⟩ := Lib.Replays.last replays
  rw [List.length_append, List.length_singleton]
  exact recorded.counted

/-- A history begins with the creation of its request. -/
theorem Replays.creation (replays : Replays request ts status) :
    ∃ t rest, ts = t :: rest ∧ Recorded [] t ∧ Creation t request := by
  obtain ⟨t, rest, _, split, recorded, ⟨creation, _⟩, _⟩ :=
    Lib.Replays.creation (fun _ _ => True) (fun _ => trivial) (fun _ _ => trivial) replays
  exact ⟨t, rest, split, recorded, creation⟩

end Replays

namespace Replay

/-- The loop state after a history. -/
def after (past : List HumanHandoffTransition)
    (projected : Option (HandoffRequest × HumanHandoffStatus)) : Replay :=
  ⟨UInt64.ofNat (past.length + 1), (past.map (·.commandId)).reverse, (claimsOf past).reverse,
    projected.map (·.1), projected.map (·.2), lastTime past⟩

/-- The loop state in the middle of the round for `t`. -/
def entering (past : List HumanHandoffTransition)
    (projected : Option (HandoffRequest × HumanHandoffStatus)) (t : HumanHandoffTransition) :
    Replay :=
  { after past projected with
    expectedSequence := UInt64.ofNat (past.length + 2)
    commandIds := t.commandId :: (past.map (·.commandId)).reverse
    previousAppliedAtMs := t.appliedAtMs }

variable {t : HumanHandoffTransition} {past : List HumanHandoffTransition} {r : Replay}
  {request : HandoffRequest}

theorem step_after {projected : Option (HandoffRequest × HumanHandoffStatus)}
    (small : past.length + 1 < UInt64.size) :
    (after past projected).step t = .ok r ↔
      Recorded past t ∧ (entering past projected t).applyKind t = .ok r := by
  have expected : (UInt64.ofNat (past.length + 1)).toNat = past.length + 1 := sequence_toNat small
  unfold step
  rw [entry_eq_ok]
  constructor
  · rintro ⟨sequence, commandId, _, time, ordered, actor, computed, reserved, fresh, next, counted,
      applied⟩
    obtain ⟨room, rfl⟩ := numberAfter_eq_ok.1 counted
    simp only [after, expected] at sequence room applied
    rw [sequence, expected, and_beq_eq_false, Nat.not_lt] at reserved
    exact ⟨⟨sequence, room, commandId, time, ordered, actor, computed, reserved,
      by simpa [after] using fresh⟩, applied⟩
  · rintro ⟨recorded, applied⟩
    refine ⟨recorded.sequence, recorded.commandId, recorded.lower, recorded.time,
      recorded.ordered, recorded.actor, recorded.digest, ?_, by simpa [after] using recorded.fresh,
      UInt64.ofNat (past.length + 2), ?_, applied⟩
    · rw [recorded.sequence, expected, and_beq_eq_false, Nat.not_lt]
      exact recorded.room
    · rw [after, expected]
      exact numberAfter_eq_ok.2 ⟨recorded.counted, rfl⟩

omit [Sha256] in
/-- A creation is accepted first, and nothing else is. -/
theorem applyKind_none (first : t.sequence = 1) :
    (entering [] none t).applyKind t = .ok r ↔
      ∃ request, Creation t request ∧ r = after [t] (some (request, .queued)) := by
  obtain ⟨sequence, commandId, commandSha256, now, actor, kind⟩ := t
  obtain rfl : sequence = 1 := first
  constructor
  · intro applied
    unfold applyKind at applied
    cases kind with
    | created subject queue reasonCode priority =>
      replace applied := rest_ok applied
      obtain ⟨valid, applied⟩ := seq_eq_ok.1 applied
      obtain ⟨queued, applied⟩ := seq_eq_ok.1 applied
      obtain ⟨reason, applied⟩ := seq_eq_ok.1 applied
      cases applied
      exact ⟨⟨subject, queue, reasonCode, priority, now⟩, ⟨rfl, rfl, valid, queued, reason⟩, rfl⟩
    | claimRenewed => cases (seq_eq_ok.1 applied).2
    | claimReleased => cases (seq_eq_ok.1 (seq_eq_ok.1 applied).2).1
    | resolved => cases (seq_eq_ok.1 (seq_eq_ok.1 (seq_eq_ok.1 applied).2).2).1
    | claimExpired => cases applied
    | _ => cases (seq_eq_ok.1 applied).1
  · rintro ⟨⟨subject, queue, reasonCode, priority, time⟩, ⟨rfl, rfl, valid, queued, reason⟩, rfl⟩
    exact seq_eq_ok.2 ⟨rfl, seq_eq_ok.2 ⟨valid, seq_eq_ok.2 ⟨queued, seq_eq_ok.2 ⟨reason, rfl⟩⟩⟩⟩

omit [Sha256] in
theorem moved_entering {status status' : HumanHandoffStatus} :
    (entering past (some (request, status)) t).moved t.kind status' =
      after (past ++ [t]) (some (request, status')) := by
  have length : (past ++ [t]).length + 1 = past.length + 2 := by simp
  rw [moved, entering, after, after, length, claimsOf_concat, lastTime_concat, List.map_append,
    List.reverse_append, List.reverse_append]
  cases t.kind.claim? <;> rfl

theorem step_start :
    start.step t = .ok r ↔
      ∃ request, Recorded [] t ∧ Creation t request ∧ r = after [t] (some (request, .queued)) := by
  show (after [] none).step t = .ok r ↔ _
  have small : ([] : List HumanHandoffTransition).length + 1 < UInt64.size := by
    rw [List.length_nil]
    decide
  rw [step_after small]
  constructor
  · rintro ⟨recorded, applied⟩
    obtain ⟨request, creation, rfl⟩ := (applyKind_none recorded.sequence).1 applied
    exact ⟨request, recorded, creation, rfl⟩
  · rintro ⟨request, recorded, creation, rfl⟩
    exact ⟨recorded, (applyKind_none recorded.sequence).2 ⟨request, creation, rfl⟩⟩

theorem step_some {status : HumanHandoffStatus} (later : past ≠ [])
    (small : past.length + 1 < UInt64.size) :
    (after past (some (request, status))).step t = .ok r ↔
      ∃ status', Recorded past t ∧
        Moves (claimsOf past) t.appliedAtMs t.actor status t.kind status' ∧
        r = after (past ++ [t]) (some (request, status')) := by
  have same : ∀ status', Moves (claimsOf past).reverse t.appliedAtMs t.actor status t.kind status' ↔
      Moves (claimsOf past) t.appliedAtMs t.actor status t.kind status' := by
    intro status'
    constructor <;> exact Moves.congr (by simp)
  rw [step_after small]
  have second : Recorded past t → t.sequence ≠ 1 := by
    intro recorded first
    have number := congrArg UInt64.toNat (recorded.sequence.symm.trans first)
    rw [sequence_toNat small] at number
    exact later (List.length_eq_zero_iff.1 (Nat.succ.inj number))
  constructor
  · rintro ⟨recorded, applied⟩
    obtain ⟨status', moves, rfl⟩ := (applyKind_eq_ok rfl (second recorded)).1 applied
    exact ⟨status', recorded, (same status').1 moves, moved_entering⟩
  · rintro ⟨status', recorded, moves, rfl⟩
    refine ⟨recorded, (applyKind_eq_ok rfl (second recorded)).2 ⟨status', (same status').2 moves, ?_⟩⟩
    rw [moved_entering]

/-- **The replay path.**  A nonempty list of transitions is accepted exactly when
it is a history. -/
theorem run_eq_ok {ts : List HumanHandoffTransition} :
    run ts = .ok r ↔ (ts = [] ∧ r = start) ∨
      ∃ request status, Replays request ts status ∧ r = after ts (some (request, status)) := by
  refine Lib.Replays.foldlM_family_eq_ok (fun past request status => after past
    (some (request, status))) ?_ fun replays => step_some replays.ne_nil (Replays.small replays)
  intro t r
  rw [step_start]
  constructor
  · rintro ⟨request, recorded, creation, rfl⟩
    exact ⟨request, _, recorded, ⟨creation, rfl⟩, rfl⟩
  · rintro ⟨request, _, recorded, ⟨creation, rfl⟩, rfl⟩
    exact ⟨request, recorded, creation, rfl⟩

end Replay

namespace HumanHandoff

variable {h : HumanHandoff}

/-- **What `validate` accepts**: a history of at most 4098 transitions that projects
to the record. -/
theorem validate_eq_ok :
    h.validate = .ok () ↔ h.transitions.length ≤ maxHandoffTransitions ∧
      Replays h.request h.transitions h.status := by
  constructor
  · intro valid
    iterate 4 replace valid := rest_ok valid
    obtain ⟨count, valid⟩ := seq_eq_ok.1 valid
    obtain ⟨replayed, ran, matched⟩ := bind_eq_ok.1 valid
    rw [rejectIf_eq_ok, Bool.or_eq_false_iff, decide_eq_false_iff_not, not_lt] at count
    rw [rejectIf_eq_ok, Bool.or_eq_false_iff, bne_eq_false_iff_eq, bne_eq_false_iff_eq] at matched
    rcases Replay.run_eq_ok.1 ran with ⟨empty, _⟩ | ⟨request, status, replays, rfl⟩
    · rw [empty] at count
      cases count.1
    · have same := Option.some.inj matched.1
      obtain rfl := Option.some.inj matched.2
      dsimp only at same
      subst same
      exact ⟨count.2, replays⟩
  · rintro ⟨count, replays⟩
    obtain ⟨t, _, _, recorded, creation⟩ := replays.creation
    have time := recorded.time
    rw [← creation.time] at time
    refine seq_eq_ok.2 ⟨creation.subject, seq_eq_ok.2 ⟨creation.queue, seq_eq_ok.2
      ⟨creation.reason, seq_eq_ok.2 ⟨time, seq_eq_ok.2 ⟨?_, ?_⟩⟩⟩⟩⟩
    · rw [rejectIf_eq_ok, Bool.or_eq_false_iff, decide_eq_false_iff_not, not_lt]
      exact ⟨by simpa using replays.ne_nil, count⟩
    · refine bind_eq_ok.2 ⟨_, Replay.run_eq_ok.2 (.inr ⟨_, _, replays, rfl⟩), ?_⟩
      rw [rejectIf_eq_ok, Bool.or_eq_false_iff, bne_eq_false_iff_eq, bne_eq_false_iff_eq]
      exact ⟨rfl, rfl⟩

/-- A command that is recognized changes nothing; another one leaves a Handoff that validates. -/
theorem apply_cases {h next : HumanHandoff} {command : HumanHandoffCommand}
    {appliedAtMs : UInt64} {authority : AuthorityContext} {outcome : HumanHandoffApplyOutcome}
    (accepted : h.apply command appliedAtMs authority = .ok (next, outcome)) :
    (h.recognizesCommand command authority.actor = .ok true ∧ next = h) ∨
      (outcome = .applied ∧ next.validate = .ok ()) := by
  obtain ⟨recognized, looked, accepted⟩ := bind_eq_ok.1 accepted
  cases recognized with
  | true =>
    cases accepted
    exact .inl ⟨looked, rfl⟩
  | false =>
    iterate 4 replace accepted := rest_ok accepted
    obtain ⟨_, _, accepted⟩ := bind_eq_ok.1 accepted
    obtain ⟨_, _, accepted⟩ := bind_eq_ok.1 accepted
    obtain ⟨_, _, accepted⟩ := bind_eq_ok.1 accepted
    obtain ⟨valid, accepted⟩ := seq_eq_ok.1 accepted
    obtain ⟨_, _, accepted⟩ := bind_eq_ok.1 accepted
    cases accepted
    exact .inr ⟨rfl, valid⟩

/-- **Every Handoff that commands build validates.** -/
theorem Reachable.valid (reached : Reachable h) : h.validate = .ok () := by
  induction reached with
  | new created =>
    iterate 3 replace created := rest_ok created
    obtain ⟨_, _, created⟩ := bind_eq_ok.1 created
    obtain ⟨valid, created⟩ := seq_eq_ok.1 created
    obtain ⟨_, _, created⟩ := bind_eq_ok.1 created
    cases created
    exact valid
  | apply _ accepted ih =>
    rcases apply_cases accepted with ⟨_, rfl⟩ | ⟨_, valid⟩
    · exact ih
    · exact valid

theorem Reachable.replays (reached : Reachable h) :
    Replays h.request h.transitions h.status :=
  (validate_eq_ok.1 reached.valid).2

end HumanHandoff

end Paths

end YHarness.Handoff

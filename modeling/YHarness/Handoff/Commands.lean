/-
# YHarness.Handoff.Commands -- what the command path accepts

`applyKind` decides a command against the current status and names the transition to
record.  It allows exactly the moves of the replay (`applyKind_eq_ok`), and
`apply_eq_applied` lists everything that `apply` asks of a new command.  Who may
still act on a Handoff, and what room it has left, is read off these.
-/
import YHarness.Handoff.History

namespace YHarness.Handoff

open YHarness.Lib YHarness.Kernel

set_option autoImplicit false

/-! ## One command -/

variable {capacityClass : HumanHandoffCapacityClass} {past : List HumanHandoffTransition}
  {command : HumanHandoffCommandKind} {kind : HumanHandoffTransitionKind}
  {claimId : HumanHandoffClaimId}

theorem validateNewClaimId_eq_ok :
    validateNewClaimId past claimId = .ok () ↔
      validateIdentity "Human Handoff claim" claimId = .ok () ∧ claimId ∉ claimsOf past := by
  rw [validateNewClaimId, seq_eq_ok, rejectIf_eq_ok, List.any_eq_false, claimsOf,
    List.mem_filterMap]
  refine and_congr_right fun _ => ⟨?_, ?_⟩
  · rintro unused ⟨t, member, opened⟩
    refine unused t member ?_
    cases kind : t.kind <;> rw [kind] at opened <;> cases opened
    exact beq_self_eq_true _
  · intro unused t member opens
    split at opens
    · rename_i existing leaseDurationMs kind
      refine unused ⟨t, member, ?_⟩
      rw [kind, ← beq_iff_eq.1 opens]
      rfl
    · cases opens

theorem activeOwnedClaim_eq_ok {status : HumanHandoffStatus} {actor : ActorIdentity} {now : UInt64}
    {action : String} {claim : HumanHandoffClaim} :
    activeOwnedClaim status claimId actor now action = .ok claim ↔
      status = .claimed claim ∧ claim.id = claimId ∧ claim.owner = actor ∧
        now < claim.expiresAtMs := by
  cases status with
  | claimed held =>
    simp only [activeOwnedClaim, seq_eq_ok, rejectIf_eq_ok, Bool.or_eq_false_iff,
      bne_eq_false_iff_eq, decide_eq_false_iff_not, UInt64.not_le, ok_eq_ok,
      HumanHandoffStatus.claimed.injEq]
    constructor
    · rintro ⟨⟨named, owned⟩, active, rfl⟩
      exact ⟨rfl, named, owned, active⟩
    · rintro ⟨rfl, named, owned, active⟩
      exact ⟨⟨named, owned⟩, active, rfl⟩
  | _ => simp [activeOwnedClaim]

namespace HumanHandoff

variable {h : HumanHandoff} {command : HumanHandoffCommandKind} {now : UInt64}
  {actor : ActorIdentity} {after : HumanHandoffStatus} {kind : HumanHandoffTransitionKind}

theorem moves_of_applyKind (applied : h.applyKind command now actor = .ok (after, kind)) :
    Moves (claimsOf h.transitions) now actor h.status kind after ∧
      transitionCommandKind kind = some command := by
  obtain ⟨subject, queue, reasonCode, priority, requestedAtMs, status, transitions, charge⟩ := h
  cases command with
  | claim claimId leaseDurationMs =>
    obtain ⟨queued, applied⟩ := seq_eq_ok.1 applied
    obtain ⟨fresh, applied⟩ := seq_eq_ok.1 applied
    obtain ⟨lasts, applied⟩ := seq_eq_ok.1 applied
    obtain ⟨expiresAtMs, ends, applied⟩ := bind_eq_ok.1 applied
    cases applied
    rw [rejectIf_bne] at queued
    obtain rfl : status = .queued := queued
    obtain ⟨named, unused⟩ := validateNewClaimId_eq_ok.1 fresh
    exact ⟨.claim named lasts unused ends, rfl⟩
  | renewClaim claimId leaseDurationMs =>
    obtain ⟨lasts, applied⟩ := seq_eq_ok.1 applied
    obtain ⟨claim, owner, applied⟩ := bind_eq_ok.1 applied
    obtain ⟨expiresAtMs, ends, applied⟩ := bind_eq_ok.1 applied
    obtain ⟨longer, applied⟩ := seq_eq_ok.1 applied
    cases applied
    obtain ⟨held, rfl, owned, active⟩ := activeOwnedClaim_eq_ok.1 owner
    obtain rfl : status = .claimed claim := held
    rw [rejectIf_decide, UInt64.not_le] at longer
    exact ⟨.renew owned active lasts ends longer, rfl⟩
  | releaseClaim claimId reasonCode =>
    obtain ⟨reason, applied⟩ := seq_eq_ok.1 applied
    obtain ⟨claim, owner, applied⟩ := bind_eq_ok.1 applied
    cases applied
    obtain ⟨held, rfl, owned, active⟩ := activeOwnedClaim_eq_ok.1 owner
    obtain rfl : status = .claimed claim := held
    exact ⟨.release owned active reason, rfl⟩
  | expireClaim claimId =>
    cases status with
    | claimed claim =>
      obtain ⟨same, applied⟩ := seq_eq_ok.1 applied
      obtain ⟨lapsed, applied⟩ := seq_eq_ok.1 applied
      cases applied
      rw [rejectIf_bne] at same
      rw [rejectIf_decide, UInt64.not_lt] at lapsed
      subst same
      exact ⟨.expire lapsed, rfl⟩
    | _ => cases applied
  | resolve claimId outcomeCode summary =>
    obtain ⟨outcome, applied⟩ := seq_eq_ok.1 applied
    obtain ⟨text, applied⟩ := seq_eq_ok.1 applied
    obtain ⟨claim, owner, applied⟩ := bind_eq_ok.1 applied
    cases applied
    obtain ⟨held, rfl, owned, active⟩ := activeOwnedClaim_eq_ok.1 owner
    obtain rfl : status = .claimed claim := held
    exact ⟨.resolve owned active outcome text, rfl⟩
  | cancel reasonCode =>
    obtain ⟨live, applied⟩ := seq_eq_ok.1 applied
    obtain ⟨reason, applied⟩ := seq_eq_ok.1 applied
    cases applied
    rw [rejectIf_eq_ok] at live
    exact ⟨.cancel live reason, rfl⟩

theorem applyKind_of_moves
    (moves : Moves (claimsOf h.transitions) now actor h.status kind after)
    (recorded : transitionCommandKind kind = some command) :
    h.applyKind command now actor = .ok (after, kind) := by
  obtain ⟨subject, queue, reasonCode, priority, requestedAtMs, status, transitions, charge⟩ := h
  dsimp only at moves
  cases moves with
  | claim named lasts fresh ends =>
    cases recorded
    refine seq_eq_ok.2 ⟨rfl, seq_eq_ok.2 ⟨validateNewClaimId_eq_ok.2 ⟨named, fresh⟩, ?_⟩⟩
    exact seq_eq_ok.2 ⟨lasts, bind_eq_ok.2 ⟨_, ends, rfl⟩⟩
  | renew owned active lasts ends longer =>
    cases recorded
    refine seq_eq_ok.2 ⟨lasts, bind_eq_ok.2 ⟨_,
      activeOwnedClaim_eq_ok.2 ⟨rfl, rfl, owned, active⟩, bind_eq_ok.2 ⟨_, ends, ?_⟩⟩⟩
    refine seq_eq_ok.2 ⟨?_, rfl⟩
    rw [rejectIf_decide, UInt64.not_le]
    exact longer
  | release owned active reason =>
    cases recorded
    exact seq_eq_ok.2 ⟨reason, bind_eq_ok.2 ⟨_,
      activeOwnedClaim_eq_ok.2 ⟨rfl, rfl, owned, active⟩, rfl⟩⟩
  | expire lapsed =>
    cases recorded
    refine seq_eq_ok.2 ⟨by rw [rejectIf_eq_ok, bne_self_eq_false], seq_eq_ok.2 ⟨?_, rfl⟩⟩
    rw [rejectIf_decide, UInt64.not_lt]
    exact lapsed
  | resolve owned active outcome text =>
    cases recorded
    exact seq_eq_ok.2 ⟨outcome, seq_eq_ok.2 ⟨text, bind_eq_ok.2 ⟨_,
      activeOwnedClaim_eq_ok.2 ⟨rfl, rfl, owned, active⟩, rfl⟩⟩⟩
  | cancel live reason =>
    cases recorded
    refine seq_eq_ok.2 ⟨?_, seq_eq_ok.2 ⟨reason, rfl⟩⟩
    rw [rejectIf_eq_ok]
    exact live

/-- **The command path is the relation**: a command is decided as the transition that
records it moves the Handoff. -/
theorem applyKind_eq_ok :
    h.applyKind command now actor = .ok (after, kind) ↔
      Moves (claimsOf h.transitions) now actor h.status kind after ∧
        transitionCommandKind kind = some command :=
  ⟨moves_of_applyKind, fun ⟨moves, recorded⟩ => applyKind_of_moves moves recorded⟩

end HumanHandoff

/-! ## A new command -/

/-- A command and the transition that records it are of one class. -/
theorem capacityClass_recorded (recorded : transitionCommandKind kind = some command) :
    kind.capacityClass = command.capacityClass := by
  cases kind with
  | created => cases recorded
  | _ =>
    cases recorded
    rfl

theorem recordedJson_eq {commandId : HumanHandoffCommandId}
    (recorded : transitionCommandKind kind = some command) :
    recordedJson commandId kind = HumanHandoffCommand.toJson ⟨commandId, command⟩ := by
  cases kind with
  | created => cases recorded
  | _ =>
    unfold recordedJson
    dsimp only
    rw [recorded]

theorem validateTransitionCapacity_eq_ok {count : Nat} :
    validateTransitionCapacity count capacityClass = .ok () ↔
      count < maxHandoffTransitions ∧
        (capacityClass = .work → count < maxHandoffWorkTransitions) := by
  rw [validateTransitionCapacity, seq_eq_ok, rejectIf_decide, not_le, rejectIf_eq_ok,
    Bool.and_comm, and_beq_eq_false, not_le]

theorem validateMaterializationCapacity_eq_ok {size : Nat} :
    validateMaterializationCapacity size capacityClass = .ok () ↔
      size ≤ maxHandoffJsonBytes ∧ (capacityClass = .work → size ≤ maxHandoffWorkJsonBytes) := by
  rw [validateMaterializationCapacity, seq_eq_ok, rejectIf_decide, not_lt, rejectIf_eq_ok,
    Bool.and_comm, and_beq_eq_false, not_lt]

theorem validateActor_of_current {kind : String} {authority : AuthorityContext}
    (current : authority.validateCurrent kind = .ok ()) : validateActor authority.actor = .ok () := by
  have message := mapError_eq_ok.1 (seq_eq_ok.1 current).1
  have renamed : authority.actor.validateCurrentMessage "Human Handoff actor" = .ok () :=
    currentMessage_kind message
  obtain ⟨shape, legacy⟩ := seq_eq_ok.1 renamed
  rw [rejectIf_eq_ok] at legacy
  refine seq_eq_ok.2 ⟨mapError_eq_ok.2 (mapError_eq_ok.2 shape), ?_⟩
  rw [rejectIf_eq_ok]
  exact legacy

theorem ordered_eq_ok {now : UInt64} {error : HarnessError} :
    rejectIf (past.getLast?.any fun t => decide (now < t.appliedAtMs)) error = .ok () ↔
      lastTime past ≤ now := by
  rw [rejectIf_eq_ok, lastTime]
  cases past.getLast? with
  | none => simp [UInt64.zero_le]
  | some t => simp [UInt64.not_lt]

section Paths

variable [Sha256]

namespace HumanHandoff

/-- The transition that records a command. -/
def transitionFor (h : HumanHandoff) (command : HumanHandoffCommand) (now : UInt64)
    (actor : ActorIdentity) (kind : HumanHandoffTransitionKind) : HumanHandoffTransition :=
  ⟨UInt64.ofNat (h.transitions.length + 1), command.id,
    Sha256.digest (.json (attributedCommand actor command.toJson)), now, actor, kind⟩

/-- The Handoff with one more transition, which leads to a status. -/
def extend (h : HumanHandoff) (t : HumanHandoffTransition) (after : HumanHandoffStatus) :
    HumanHandoff :=
  { h with status := after, transitions := h.transitions ++ [t] }

/-- A Handoff admits a new command, recorded as a transition of this kind that leads to
a status. -/
structure Admits (h : HumanHandoff) (command : HumanHandoffCommand) (now : UInt64)
    (authority : AuthorityContext) (kind : HumanHandoffTransitionKind)
    (after : HumanHandoffStatus) : Prop where
  wellFormed : validateCommand command = .ok ()
  fresh : command.id ∉ h.transitions.map (·.commandId)
  time : validateApplicationTime now = .ok ()
  current : authority.validateCurrent "Human Handoff command authority" = .ok ()
  room : validateTransitionCapacity h.transitions.length command.kind.capacityClass = .ok ()
  ordered : lastTime h.transitions ≤ now
  small : (attributedCommand authority.actor command.toJson).encodedLen ≤
    maxHandoffCommandJsonBytes
  moves : Moves (claimsOf h.transitions) now authority.actor h.status kind after
  recorded : transitionCommandKind kind = some command.kind

section Admitted

variable {h : HumanHandoff} {command : HumanHandoffCommand} {now : UInt64}
  {authority : AuthorityContext} {kind : HumanHandoffTransitionKind} {after : HumanHandoffStatus}

theorem Admits.digest (admits : h.Admits command now authority kind after) :
    attributedDigest authority.actor command.toJson =
      .ok (Sha256.digest (.json (attributedCommand authority.actor command.toJson))) :=
  attributedDigest_eq_ok.2 ⟨validateActor_of_current admits.current, admits.small, rfl⟩

/-- An admitted command is recorded as the replay wants it. -/
theorem Admits.valid (replays : Replays h.request h.transitions h.status)
    (admits : h.Admits command now authority kind after) :
    (h.extend (h.transitionFor command now authority.actor kind) after).validate = .ok () := by
  obtain ⟨room, work⟩ := validateTransitionCapacity_eq_ok.1 admits.room
  have counted : h.transitions.length + 2 < UInt64.size := by
    have most : h.transitions.length < 4098 := room
    exact lt_trans (Nat.add_lt_add_right most 2) (by decide)
  have recorded : Recorded h.transitions (h.transitionFor command now authority.actor kind) := by
    refine ⟨rfl, counted, (seq_eq_ok.1 admits.wellFormed).1, admits.time, admits.ordered,
      validateActor_of_current admits.current, ?_, ?_, admits.fresh⟩
    · show attributedDigest authority.actor (recordedJson command.id kind) = _
      rw [recordedJson_eq admits.recorded]
      exact admits.digest
    · intro ofWork
      exact work ((capacityClass_recorded admits.recorded).symm.trans ofWork)
  rw [validate_eq_ok]
  refine ⟨?_, .moved replays recorded admits.moves⟩
  rw [extend, List.length_append, List.length_singleton]
  exact room

end Admitted

variable {command : HumanHandoffCommand} {authority : AuthorityContext}

/-- **What `apply` asks of a new command.** -/
theorem apply_eq_applied {h next : HumanHandoff} {now : UInt64}
    (replays : Replays h.request h.transitions h.status) :
    h.apply command now authority = .ok (next, .applied) ↔
      ∃ kind after size, h.Admits command now authority kind after ∧
        (h.extend (h.transitionFor command now authority.actor kind) after).encodedSizeFor
          command.kind.capacityClass = .ok size ∧
        next = { h.extend (h.transitionFor command now authority.actor kind) after with
          materializationChargeBytes := size } := by
  constructor
  · intro accepted
    obtain ⟨recognized, looked, accepted⟩ := bind_eq_ok.1 accepted
    cases recognized with
    | true => cases accepted
    | false =>
      obtain ⟨valid, looked⟩ := seq_eq_ok.1 looked
      replace looked := rest_ok looked
      obtain ⟨digest, computed, looked⟩ := bind_eq_ok.1 looked
      obtain ⟨time, accepted⟩ := seq_eq_ok.1 accepted
      obtain ⟨current, accepted⟩ := seq_eq_ok.1 accepted
      obtain ⟨room, accepted⟩ := seq_eq_ok.1 accepted
      obtain ⟨ordered, accepted⟩ := seq_eq_ok.1 accepted
      obtain ⟨digest', computed', accepted⟩ := bind_eq_ok.1 accepted
      obtain ⟨⟨after, kind⟩, applied, accepted⟩ := bind_eq_ok.1 accepted
      obtain ⟨moves, recorded⟩ := applyKind_eq_ok.1 applied
      obtain ⟨sequence, counted, accepted⟩ := bind_eq_ok.1 accepted
      replace accepted := rest_ok accepted
      obtain ⟨size, sized, accepted⟩ := bind_eq_ok.1 accepted
      cases accepted
      obtain ⟨_, rfl⟩ := numberAfter_eq_ok.1 counted
      obtain ⟨_, small, rfl⟩ := attributedDigest_eq_ok.1 computed'
      have fresh : command.id ∉ h.transitions.map (·.commandId) := by
        split at looked
        · rename_i unused
          exact find?_key_eq_none.1 unused
        · split at looked <;> cases looked
      exact ⟨kind, after, size, ⟨valid, fresh, time, current, room, ordered_eq_ok.1 ordered,
        small, moves, recorded⟩, sized, rfl⟩
  · rintro ⟨kind, after, size, admits, sized, rfl⟩
    have unused : h.transitions.find? (fun t => t.commandId == command.id) = none :=
      find?_key_eq_none.2 admits.fresh
    have looked : h.recognizesCommand command authority.actor = .ok false := by
      refine seq_eq_ok.2 ⟨admits.wellFormed, seq_eq_ok.2
        ⟨validateActor_of_current admits.current, bind_eq_ok.2 ⟨_, admits.digest, ?_⟩⟩⟩
      rw [unused]
    refine bind_eq_ok.2 ⟨false, looked, seq_eq_ok.2 ⟨admits.time, seq_eq_ok.2 ⟨admits.current, ?_⟩⟩⟩
    refine seq_eq_ok.2 ⟨admits.room, seq_eq_ok.2 ⟨ordered_eq_ok.2 admits.ordered, ?_⟩⟩
    refine bind_eq_ok.2 ⟨_, admits.digest, bind_eq_ok.2 ⟨(after, kind),
      applyKind_eq_ok.2 ⟨admits.moves, admits.recorded⟩, ?_⟩⟩
    have counted : checkedSequence h.transitions.length =
        .ok (UInt64.ofNat (h.transitions.length + 1)) :=
      numberAfter_eq_ok.2 ⟨replays.small, rfl⟩
    refine bind_eq_ok.2 ⟨_, counted, seq_eq_ok.2 ⟨admits.valid replays, ?_⟩⟩
    exact bind_eq_ok.2 ⟨_, sized, rfl⟩

/-- A command that was applied before is recognized. -/
theorem recognized_of_duplicate {h next : HumanHandoff} {now : UInt64}
    (accepted : h.apply command now authority = .ok (next, .duplicate)) :
    h.recognizesCommand command authority.actor = .ok true ∧ next = h := by
  rcases apply_cases accepted with recognized | ⟨applied, _⟩
  · exact recognized
  · cases applied

/-- It changes nothing. -/
theorem eq_of_duplicate {h next : HumanHandoff} {now : UInt64}
    (accepted : h.apply command now authority = .ok (next, .duplicate)) : next = h :=
  (recognized_of_duplicate accepted).2

end HumanHandoff

end Paths

end YHarness.Handoff

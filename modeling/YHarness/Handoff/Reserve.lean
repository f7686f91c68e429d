/-
# YHarness.Handoff.Reserve -- a Handoff can always be stopped

Work commands end at 4096 transitions and at 16 MiB, and the commands that settle a
claim or the Handoff may go beyond.  `Reserved` bounds what they can use up: a claimed
Handoff is within the limits of work, and a queued one has spent at most one return
to the queue beyond them.  Both a return and a cancellation are small, so the reserve
always holds the cancellation (`handoff_settlement_reserve`).
-/
import YHarness.Handoff.Claims

namespace YHarness.Handoff

open YHarness.Lib YHarness.Kernel

set_option autoImplicit false

/-! ## Sizes -/

theorem identity_len {kind value : String} (valid : validateIdentity kind value = .ok ()) :
    stringLen value ≤ 514 :=
  plainText_len valid

variable {actor : ActorIdentity} {kind : HumanHandoffTransitionKind}
  {status after : HumanHandoffStatus} {used : List HumanHandoffClaimId} {t : HumanHandoffTransition}

theorem handoffActor_len (valid : validateActor actor = .ok ()) :
    actor.toJson.encodedLen ≤ 1200 := by
  obtain ⟨shape, legacy⟩ := seq_eq_ok.1 valid
  rw [rejectIf_eq_ok] at legacy
  have current : actor.validateCurrentMessage "Human Handoff actor" = .ok () := by
    refine seq_eq_ok.2 ⟨mapError_eq_ok.1 (mapError_eq_ok.1 shape), ?_⟩
    rw [rejectIf_eq_ok]
    exact legacy
  exact actor_len current

theorem jsonU8_len (n : UInt8) : (jsonU8 n).encodedLen ≤ 20 :=
  toDigits_length_le (lt_trans n.toNat_lt (by decide))

theorem subject_len {subject : HumanHandoffSubject} (valid : validateSubject subject = .ok ()) :
    subject.toJson.encodedLen ≤ 600 := by
  have keys : ∀ key ∈ ["kind", "thread", "thread_id", "workflow_run", "run_id"],
      stringLen key ≤ 16 := by decide
  simp only [List.forall_mem_cons] at keys
  cases subject with
  | thread id | workflowRun id =>
    have idLen := identity_len valid
    simp only [HumanHandoffSubject.toJson, Json.encodedLen, fieldsLen, List.length_cons,
      List.length_nil]
    omega

/-- The most bytes that a return to the queue adds to a Handoff, and a cancellation. -/
def returnBytes : Nat := 4000

/-- A return to the queue and a cancellation record little. -/
theorem Moves.brief {now : UInt64} (moves : Moves used now actor status kind after)
    (brief : after = .queued ∨ ∃ reasonCode, after = .cancelled reasonCode)
    (identified : ∀ claim, status = .claimed claim →
      validateIdentity "Human Handoff claim" claim.id = .ok ()) :
    kind.toJson.encodedLen + after.toJson.encodedLen ≤ 1000 := by
  have keys : ∀ key ∈ ["event", "claim_released", "claim_expired", "cancelled", "claim_id",
      "reason_code", "status", "queued"], stringLen key ≤ 20 := by decide
  simp only [List.forall_mem_cons] at keys
  cases moves with
  | release owned active reason =>
    have claimLen := identity_len (identified _ rfl)
    have reasonLen := capabilityName_len reason
    simp only [HumanHandoffTransitionKind.toJson, HumanHandoffStatus.toJson, Json.encodedLen,
      fieldsLen, List.length_cons, List.length_nil]
    omega
  | expire lapsed =>
    have claimLen := identity_len (identified _ rfl)
    simp only [HumanHandoffTransitionKind.toJson, HumanHandoffStatus.toJson, Json.encodedLen,
      fieldsLen, List.length_cons, List.length_nil]
    omega
  | cancel live reason =>
    have reasonLen := capabilityName_len reason
    simp only [HumanHandoffTransitionKind.toJson, HumanHandoffStatus.toJson, Json.encodedLen,
      fieldsLen, List.length_cons, List.length_nil]
    omega
  | _ => simp at brief

/-- A move leaves a claim that is work, returns to the queue, or ends the Handoff. -/
theorem Moves.classes {now : UInt64} (moves : Moves used now actor status kind after) :
    (kind.capacityClass = .work ∧ ∃ claim, after = .claimed claim) ∨
      ((∃ claim, status = .claimed claim) ∧ after = .queued) ∨ after.isTerminal = true := by
  cases moves with
  | claim | renew => exact .inl ⟨rfl, _, rfl⟩
  | release | expire => exact .inr (.inl ⟨⟨_, rfl⟩, rfl⟩)
  | resolve | cancel => exact .inr (.inr rfl)

/-- A transition takes what it records and little more. -/
theorem transition_len (id : validateIdentity "Human Handoff command" t.commandId = .ok ())
    (lower : isLowerSha256 t.commandSha256 = true) (actor : validateActor t.actor = .ok ()) :
    t.toJson.encodedLen ≤ t.kind.toJson.encodedLen + 2000 := by
  have keys : ∀ key ∈ ["sequence", "command_id", "command_sha256", "applied_at_ms", "actor",
      "kind"], stringLen key ≤ 16 := by decide
  simp only [List.forall_mem_cons] at keys
  have sequenceLen := jsonU64_len t.sequence
  have idLen := identity_len id
  have digestLen := lowerSha256_len lower
  have timeLen := jsonU64_len t.appliedAtMs
  have actorLen := handoffActor_len actor
  simp only [HumanHandoffTransition.toJson, Json.encodedLen, fieldsLen, List.length_cons,
    List.length_nil]
  omega

/-- One more transition adds itself, a comma and its status. -/
theorem HumanHandoff.extend_len {h : HumanHandoff} {after : HumanHandoffStatus} :
    (h.extend t after).toJson.encodedLen ≤
      h.toJson.encodedLen + after.toJson.encodedLen + t.toJson.encodedLen + 1 := by
  simp only [HumanHandoff.extend, HumanHandoff.toJson, Json.encodedLen, fieldsLen,
    List.length_cons, List.length_nil, List.length_map, List.length_append, List.map_append,
    List.map_cons, List.map_nil, valuesLen_append, valuesLen]
  omega

/-! ## The reserve -/

section Paths

variable [Sha256]

variable {ts : List HumanHandoffTransition} {status : HumanHandoffStatus} {request : HandoffRequest}

/-- A live claim was checked when it was taken. -/
theorem Replays.identified (replays : Replays request ts status) {claim : HumanHandoffClaim}
    (held : status = .claimed claim) :
    validateIdentity "Human Handoff claim" claim.id = .ok () := by
  induction replays generalizing claim with
  | created _ creation =>
    rw [creation.2] at held
    cases held
  | @moved _ _ _ t _ _ moves ih =>
    generalize t.kind = kind at moves
    cases moves with
    | claim named =>
      cases held
      exact named
    | renew =>
      cases held
      have taken := @ih _ rfl
      exact taken
    | _ => cases held

/-- The time of a history is positive. -/
theorem Replays.time (replays : Replays request ts status) {now : UInt64}
    (ordered : lastTime ts ≤ now) : validateApplicationTime now = .ok () := by
  have positive : 0 < lastTime ts := by
    cases replays with
    | @created t _ recorded | @moved _ _ _ t _ recorded =>
      have time := recorded.time
      rw [validateApplicationTime, rejectIf_eq_ok, beq_eq_false_iff_ne] at time
      simpa [lastTime] using UInt64.pos_iff_ne_zero.2 time
  rw [validateApplicationTime, rejectIf_eq_ok, beq_eq_false_iff_ne]
  rintro rfl
  exact absurd positive (UInt64.not_lt.2 ordered)

namespace HumanHandoff

/-- What a Handoff that may go on has left of its limits. -/
structure Reserved (h : HumanHandoff) : Prop where
  claimed : ∀ claim, h.status = .claimed claim →
    h.transitions.length ≤ maxHandoffWorkTransitions ∧
      h.toJson.encodedLen ≤ maxHandoffWorkJsonBytes
  queued : h.status = .queued →
    h.transitions.length ≤ maxHandoffWorkTransitions + 1 ∧
      h.toJson.encodedLen ≤ maxHandoffWorkJsonBytes + returnBytes

omit [Sha256] in
theorem Reserved.live {h : HumanHandoff} (reserved : h.Reserved)
    (live : h.status.isTerminal = false) :
    h.transitions.length ≤ maxHandoffWorkTransitions + 1 ∧
      h.toJson.encodedLen ≤ maxHandoffWorkJsonBytes + returnBytes := by
  cases status : h.status with
  | queued => exact reserved.queued status
  | claimed claim =>
    obtain ⟨count, size⟩ := reserved.claimed claim status
    omega
  | _ =>
    rw [status] at live
    cases live

omit [Sha256] in
theorem encodedSizeFor_eq_ok {h : HumanHandoff} {capacityClass : HumanHandoffCapacityClass}
    {size : Nat} :
    h.encodedSizeFor capacityClass = .ok size ↔
      (h.toJson.encodedLen ≤ maxHandoffJsonBytes ∧
        (capacityClass = .work → h.toJson.encodedLen ≤ maxHandoffWorkJsonBytes)) ∧
        size = h.toJson.encodedLen := by
  constructor
  · intro sized
    obtain ⟨bytes, fits, sized⟩ := bind_eq_ok.1 sized
    obtain ⟨room, sized⟩ := seq_eq_ok.1 sized
    cases sized
    obtain ⟨_, rfl⟩ := boundedSerializedSize_eq_ok.1 (mapError_eq_ok.1 fits)
    exact ⟨validateMaterializationCapacity_eq_ok.1 room, rfl⟩
  · rintro ⟨room, rfl⟩
    refine bind_eq_ok.2 ⟨_, mapError_eq_ok.2 (boundedSerializedSize_eq_ok.2 ⟨room.1, rfl⟩), ?_⟩
    exact seq_eq_ok.2 ⟨validateMaterializationCapacity_eq_ok.2 room, rfl⟩

omit [Sha256] in
/-- A Handoff of one creation is far from the limits of work. -/
theorem created_len (now : UInt64) (charge : Nat) {request : HumanHandoffCreateRequest}
    {actor : ActorIdentity} {digest : String} (valid : validateCreateRequest request = .ok ())
    (lower : isLowerSha256 digest = true) (current : validateActor actor = .ok ()) :
    (HumanHandoff.toJson ⟨request.subject, request.queue, request.reasonCode, request.priority,
      now, .queued, [⟨1, request.commandId, digest, now, actor, .created request.subject
        request.queue request.reasonCode request.priority⟩], charge⟩).encodedLen ≤
      maxHandoffWorkJsonBytes := by
  have keys : ∀ key ∈ ["subject", "queue", "reason_code", "priority", "requested_at_ms", "status",
      "queued", "transitions", "event", "created"], stringLen key ≤ 20 := by decide
  simp only [List.forall_mem_cons] at keys
  obtain ⟨commandId, valid⟩ := seq_eq_ok.1 valid
  obtain ⟨subject, valid⟩ := seq_eq_ok.1 valid
  obtain ⟨queue, reason⟩ := seq_eq_ok.1 valid
  have subjectLen := subject_len subject
  have queueLen := capabilityName_len queue
  have reasonLen := capabilityName_len reason
  have priorityLen := jsonU8_len request.priority
  have timeLen := jsonU64_len now
  have transitionLen := transition_len (t := ⟨1, request.commandId, digest, now, actor,
    .created request.subject request.queue request.reasonCode request.priority⟩) commandId lower
    current
  simp only [HumanHandoffTransitionKind.toJson, Json.encodedLen, fieldsLen, List.length_cons,
    List.length_nil] at transitionLen
  show _ ≤ 16777216
  simp only [HumanHandoff.toJson, HumanHandoffStatus.toJson, Json.encodedLen, fieldsLen, valuesLen,
    List.length_cons, List.length_nil, List.map_cons, List.map_nil]
  omega

theorem Reserved.new {request : HumanHandoffCreateRequest} {now : UInt64}
    {authority : AuthorityContext} {h : HumanHandoff}
    (created : HumanHandoff.new request now authority = .ok h) : h.Reserved := by
  obtain ⟨valid, created⟩ := seq_eq_ok.1 created
  replace created := rest_ok created
  obtain ⟨current, created⟩ := seq_eq_ok.1 created
  obtain ⟨digest, digested, created⟩ := bind_eq_ok.1 created
  replace created := rest_ok created
  obtain ⟨_, _, created⟩ := bind_eq_ok.1 created
  cases created
  obtain ⟨_, _, rfl⟩ := attributedDigest_eq_ok.1 digested
  refine ⟨nofun, fun _ => ⟨?_, ?_⟩⟩
  · rw [List.length_singleton]
    decide
  · exact Nat.le_add_right_of_le
      (created_len now _ valid (Sha256.digest_lower _) (validateActor_of_current current))

section Admitted

variable {h : HumanHandoff} {command : HumanHandoffCommand} {now : UInt64}
  {authority : AuthorityContext} {kind : HumanHandoffTransitionKind} {after : HumanHandoffStatus}

/-- A return to the queue and a cancellation add few bytes. -/
theorem Admits.brief (admits : h.Admits command now authority kind after)
    (replays : Replays h.request h.transitions h.status)
    (brief : after = .queued ∨ ∃ reasonCode, after = .cancelled reasonCode) :
    (h.extend (h.transitionFor command now authority.actor kind) after).toJson.encodedLen ≤
      h.toJson.encodedLen + returnBytes := by
  have small := admits.moves.brief brief fun claim held => replays.identified held
  have transitionLen : (h.transitionFor command now authority.actor kind).toJson.encodedLen ≤
      kind.toJson.encodedLen + 2000 :=
    transition_len (seq_eq_ok.1 admits.wellFormed).1 (Sha256.digest_lower _)
      (validateActor_of_current admits.current)
  refine le_trans extend_len ?_
  show _ ≤ _ + 4000
  omega

/-- A command leaves the reserve to the next one. -/
theorem Reserved.apply {next : HumanHandoff} (replays : Replays h.request h.transitions h.status)
    (reserved : h.Reserved) (accepted : h.apply command now authority = .ok (next, .applied)) :
    next.Reserved := by
  obtain ⟨kind, after, size, admits, sized, rfl⟩ := (apply_eq_applied replays).1 accepted
  obtain ⟨_, ofWork⟩ := (encodedSizeFor_eq_ok.1 sized).1
  obtain ⟨_, below⟩ := validateTransitionCapacity_eq_ok.1 admits.room
  rw [← capacityClass_recorded admits.recorded] at ofWork below
  have length : (h.transitions ++ [h.transitionFor command now authority.actor kind]).length =
      h.transitions.length + 1 := by
    rw [List.length_append, List.length_singleton]
  rcases admits.moves.classes with ⟨work, claim, rfl⟩ | ⟨⟨claim, held⟩, rfl⟩ | terminal
  · exact ⟨fun _ _ => ⟨length ▸ below work, ofWork work⟩, nofun⟩
  · -- the return goes beyond the limits of work by its own transition
    obtain ⟨count, bytes⟩ := reserved.claimed claim held
    refine ⟨nofun, fun _ => ⟨length ▸ Nat.add_le_add_right count 1, ?_⟩⟩
    exact le_trans (admits.brief replays (.inl rfl)) (Nat.add_le_add_right bytes _)
  · refine ⟨fun claim held => ?_, fun queued => ?_⟩
    · obtain rfl : after = .claimed claim := held
      cases terminal
    · obtain rfl : after = .queued := queued
      cases terminal

end Admitted

theorem Reachable.reserved {h : HumanHandoff} (reached : Reachable h) : h.Reserved := by
  induction reached with
  | new created => exact .new created
  | @apply h next reached command now authority outcome accepted ih =>
    cases outcome with
    | applied => exact ih.apply reached.replays accepted
    | duplicate =>
      rw [eq_of_duplicate accepted]
      exact ih

omit [Sha256] in
/-- A cancellation is always small enough. -/
theorem cancel_small {id : HumanHandoffCommandId} {reasonCode : String} {actor : ActorIdentity}
    (named : validateIdentity "Human Handoff command" id = .ok ())
    (reason : validateCapabilityName "Human Handoff cancellation reason" reasonCode = .ok ())
    (valid : validateActor actor = .ok ()) :
    validateCommand ⟨id, .cancel reasonCode⟩ = .ok () ∧
      (attributedCommand actor (HumanHandoffCommand.toJson ⟨id, .cancel reasonCode⟩)).encodedLen ≤
        maxHandoffCommandJsonBytes := by
  have keys : ∀ key ∈ ["actor", "command", "id", "kind", "action", "cancel", "reason_code"],
      stringLen key ≤ 16 := by decide
  simp only [List.forall_mem_cons] at keys
  have idLen := identity_len named
  have reasonLen := capabilityName_len reason
  have actorLen := handoffActor_len valid
  have small : (HumanHandoffCommand.toJson ⟨id, .cancel reasonCode⟩).encodedLen ≤ 1000 := by
    simp only [HumanHandoffCommand.toJson, HumanHandoffCommandKind.toJson, Json.encodedLen,
      fieldsLen, List.length_cons, List.length_nil]
    omega
  constructor
  · refine seq_eq_ok.2 ⟨named, bind_eq_ok.2 ⟨_, mapError_eq_ok.2
      (boundedSerializedSize_eq_ok.2 ⟨?_, rfl⟩), rfl⟩⟩
    exact small.trans (by decide)
  · show _ ≤ 131072
    rw [attributedCommand, Json.encodedLen]
    simp only [fieldsLen, List.length_cons, List.length_nil]
    omega

/-- **The paths agree, and a Handoff can always be stopped.**  What commands build is
replayed to the status it stores, one sequence number for each transition, and as long
as it has not ended a new cancellation that is not dated back is applied, however much
of the limits the history has used. -/
theorem handoff_settlement_reserve {h : HumanHandoff} (reached : h.Reachable) :
    h.validate = .ok () ∧
    (∃ r, Replay.run h.transitions = .ok r ∧ r.request = some h.request ∧
      r.status = some h.status ∧ r.expectedSequence.toNat = h.transitions.length + 1) ∧
    (h.status.isTerminal = false → ∀ id reasonCode now (authority : AuthorityContext),
      validateIdentity "Human Handoff command" id = .ok () →
      id ∉ h.transitions.map (·.commandId) →
      validateCapabilityName "Human Handoff cancellation reason" reasonCode = .ok () →
      lastTime h.transitions ≤ now →
      authority.validateCurrent "Human Handoff command authority" = .ok () →
        ∃ next, h.apply ⟨id, .cancel reasonCode⟩ now authority = .ok (next, .applied) ∧
          next.status = .cancelled reasonCode) := by
  have replays := reached.replays
  refine ⟨reached.valid, ?_, ?_⟩
  · refine ⟨_, Replay.run_eq_ok.2 (.inr ⟨_, _, replays, rfl⟩), rfl, rfl, ?_⟩
    exact sequence_toNat replays.small
  · intro live id reasonCode now authority named fresh reason ordered current
    obtain ⟨count, bytes⟩ := reached.reserved.live live
    obtain ⟨wellFormed, small⟩ := cancel_small named reason (validateActor_of_current current)
    have room : validateTransitionCapacity h.transitions.length .settlement = .ok () :=
      validateTransitionCapacity_eq_ok.2 ⟨lt_of_le_of_lt count (by decide), nofun⟩
    have admits : h.Admits ⟨id, .cancel reasonCode⟩ now authority (.cancelled reasonCode)
        (.cancelled reasonCode) :=
      ⟨wellFormed, fresh, replays.time ordered, current, room, ordered, small, .cancel live reason,
        rfl⟩
    have added := admits.brief replays (.inr ⟨reasonCode, rfl⟩)
    refine ⟨_, (apply_eq_applied replays).2 ⟨_, _, _, admits, encodedSizeFor_eq_ok.2
      ⟨⟨?_, nofun⟩, rfl⟩, rfl⟩, rfl⟩
    refine le_trans added (le_trans (Nat.add_le_add_right bytes _) ?_)
    decide

end HumanHandoff

end Paths

namespace HumanHandoff

section Sample

attribute [local instance] constantSha256

theorem handoff_settlement_reserve_sample :
    sampleHandoff.validate = .ok () ∧
      ∃ next, sampleHandoff.apply ⟨"stop", .cancel "user.left"⟩ 2500 (sampleAuthority "admin") =
        .ok (next, .applied) ∧ next.status = .cancelled "user.left" := by
  obtain ⟨valid, _, stops⟩ := handoff_settlement_reserve sampleHandoff_reachable
  have live : sampleHandoff.status.isTerminal = false := by decide +kernel
  have fresh : "stop" ∉ sampleHandoff.transitions.map (·.commandId) := by decide +kernel
  have ordered : lastTime sampleHandoff.transitions ≤ 2500 := by decide +kernel
  exact ⟨valid, stops live "stop" "user.left" 2500 (sampleAuthority "admin") (by decide +kernel)
    fresh (by decide +kernel) ordered (by decide +kernel)⟩

end Sample

end HumanHandoff

end YHarness.Handoff

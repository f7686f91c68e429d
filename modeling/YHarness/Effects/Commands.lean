/-
# YHarness.Effects.Commands -- the command path and the replay path agree

`applyKind` decides a command against the current status and names the
transition to record; it allows exactly the moves the replay allows
(`applyKind_eq_ok`).  So every Effect that commands build validates, and every
Effect that validates is the one its own commands build again
(`command_replay_agree`).
-/
import YHarness.Effects.Dispatch
import YHarness.Effects.Size

namespace YHarness.Effects

open YHarness.Lib YHarness.Kernel

set_option autoImplicit false

/-! ## One command -/

/-- The next attempt is one that may be claimed. -/
def EffectStatus.Claimable : EffectStatus → Prop
  | pending nextAttempt _ => validateAttempt nextAttempt = .ok ()
  | claimed lease => 0 < lease.attempt.toNat
  | unknown attempt _ _ => 0 < attempt.toNat
  | _ => True

theorem validateNewLeaseId_eq_ok {past : List EffectTransition} {leaseId : EffectLeaseId} :
    validateNewLeaseId past leaseId = .ok () ↔
      validateIdentity "Effect lease" leaseId = .ok () ∧ leaseId ∉ usedLeases past := by
  rw [validateNewLeaseId, seq_eq_ok, rejectIf_eq_ok, List.any_eq_false, mem_usedLeases]
  simp

theorem settled_claimable {attempt : UInt32} {reasonCode : String} {retryAtMs : Option UInt64}
    {status : EffectStatus} (settled : settledNotApplied attempt reasonCode retryAtMs = .ok status) :
    status.Claimable := by
  rcases settledNotApplied_eq_ok.1 settled with ⟨_, next, _, counted, most, rfl⟩ | ⟨_, rfl⟩
  · have positive : next ≠ 0 := by
      rintro rfl
      rw [UInt32.toNat_zero] at counted
      omega
    rw [EffectStatus.Claimable, validateAttempt, rejectIf_eq_ok, Bool.or_eq_false_iff,
      beq_eq_false_iff_ne, decide_eq_false_iff_not, UInt32.not_lt]
    exact ⟨positive, most⟩
  · trivial

variable {actor : ActorIdentity} {kind : EffectTransitionKind} {now : UInt64}
  {before after : EffectStatus} {used : List EffectLeaseId} {tenantId : Option String}

theorem Moves.claimable (moves : Moves used now actor before kind after)
    (claimable : before.Claimable) :
    after.Claimable := by
  cases moves with
  | @claim attempt =>
    rw [EffectStatus.Claimable, validateAttempt, rejectIf_eq_ok, Bool.or_eq_false_iff,
      beq_eq_false_iff_ne] at claimable
    exact Nat.pos_of_ne_zero fun zero => claimable.1 (UInt32.toNat_inj.1 zero)
  | renew | reported | expired => exact claimable
  | notApplied _ _ _ _ settled | reconciledNotApplied _ _ settled => exact settled_claimable settled
  | applied | reconciledApplied | cancel => trivial

theorem activeOwnedLease_held {status : EffectStatus} {action : String} {lease : EffectLease}
    (current : status = .claimed lease) (owned : lease.owner = actor)
    (active : now < lease.expiresAtMs) :
    activeOwnedLease status lease.id actor now action = .ok lease :=
  activeOwnedLease_eq_ok.2 ⟨current, rfl, owned, active⟩

namespace Effect

variable {e : Effect}

theorem claim_moves {leaseId leaseDurationMs}
    (applied : e.applyKind (.claim leaseId leaseDurationMs) now actor = .ok (after, kind)) :
    Moves (usedLeases e.transitions) now actor e.status kind after ∧
      transitionCommandKind kind = .ok (.claim leaseId leaseDurationMs) := by
  obtain ⟨status, current⟩ : ∃ status, e.status = status := ⟨_, rfl⟩
  rw [Effect.applyKind, current] at applied
  cases status with
  | pending nextAttempt notBeforeMs =>
    obtain ⟨eligible, applied⟩ := seq_eq_ok.1 applied
    obtain ⟨fresh, applied⟩ := seq_eq_ok.1 applied
    obtain ⟨lasts, applied⟩ := seq_eq_ok.1 applied
    replace applied := rest_ok applied
    obtain ⟨expiresAtMs, ends, applied⟩ := bind_eq_ok.1 applied
    cases applied
    rw [rejectIf_decide, UInt64.not_lt] at eligible
    obtain ⟨named, unused⟩ := validateNewLeaseId_eq_ok.1 fresh
    exact ⟨current ▸ .claim eligible named lasts unused ends, rfl⟩
  | _ => cases applied

theorem expireLease_moves {leaseId}
    (applied : e.applyKind (.expireLease leaseId) now actor = .ok (after, kind)) :
    Moves (usedLeases e.transitions) now actor e.status kind after ∧
      transitionCommandKind kind = .ok (.expireLease leaseId) := by
  obtain ⟨status, current⟩ : ∃ status, e.status = status := ⟨_, rfl⟩
  rw [Effect.applyKind, current] at applied
  cases status with
  | claimed lease =>
    obtain ⟨named, applied⟩ := seq_eq_ok.1 applied
    obtain ⟨lapsed, applied⟩ := seq_eq_ok.1 applied
    cases applied
    rw [rejectIf_bne] at named
    subst named
    rw [rejectIf_decide, UInt64.not_lt] at lapsed
    exact ⟨current ▸ .expired lapsed, rfl⟩
  | _ => cases applied

theorem moves_of_applyKind {command : EffectCommandKind}
    (applied : e.applyKind command now actor = .ok (after, kind)) :
    Moves (usedLeases e.transitions) now actor e.status kind after ∧
      transitionCommandKind kind = .ok command := by
  cases command with
  | claim => exact claim_moves applied
  | renewLease leaseId leaseDurationMs =>
    obtain ⟨lasts, applied⟩ := seq_eq_ok.1 applied
    obtain ⟨lease, held, applied⟩ := bind_eq_ok.1 applied
    obtain ⟨expiresAtMs, ends, applied⟩ := bind_eq_ok.1 applied
    obtain ⟨longer, applied⟩ := seq_eq_ok.1 applied
    cases applied
    obtain ⟨claimed, rfl, owned, active⟩ := activeOwnedLease_eq_ok.1 held
    rw [rejectIf_decide, UInt64.not_le] at longer
    exact ⟨claimed ▸ .renew owned active lasts ends longer, rfl⟩
  | recordApplied leaseId receipt =>
    obtain ⟨valid, applied⟩ := seq_eq_ok.1 applied
    obtain ⟨lease, held, applied⟩ := bind_eq_ok.1 applied
    cases applied
    obtain ⟨claimed, rfl, owned, active⟩ := activeOwnedLease_eq_ok.1 held
    exact ⟨claimed ▸ .applied owned active valid, rfl⟩
  | recordNotApplied leaseId reasonCode retryAtMs =>
    obtain ⟨reason, applied⟩ := seq_eq_ok.1 applied
    obtain ⟨retry, applied⟩ := seq_eq_ok.1 applied
    obtain ⟨lease, held, applied⟩ := bind_eq_ok.1 applied
    obtain ⟨next, settled, applied⟩ := bind_eq_ok.1 applied
    cases applied
    obtain ⟨claimed, rfl, owned, active⟩ := activeOwnedLease_eq_ok.1 held
    exact ⟨claimed ▸ .notApplied owned active reason retry settled, rfl⟩
  | recordUnknown leaseId reasonCode =>
    obtain ⟨reason, applied⟩ := seq_eq_ok.1 applied
    obtain ⟨lease, held, applied⟩ := bind_eq_ok.1 applied
    cases applied
    obtain ⟨claimed, rfl, owned, active⟩ := activeOwnedLease_eq_ok.1 held
    exact ⟨claimed ▸ .reported owned active reason, rfl⟩
  | expireLease => exact expireLease_moves applied
  | reconcileApplied leaseId attempt receipt =>
    obtain ⟨valid, applied⟩ := seq_eq_ok.1 applied
    obtain ⟨doubted, applied⟩ := seq_eq_ok.1 applied
    cases applied
    obtain ⟨reasonCode, unknown⟩ := validateUnknown_eq_ok.1 doubted
    exact ⟨unknown ▸ .reconciledApplied valid, rfl⟩
  | reconcileNotApplied leaseId attempt reasonCode retryAtMs =>
    obtain ⟨reason, applied⟩ := seq_eq_ok.1 applied
    obtain ⟨retry, applied⟩ := seq_eq_ok.1 applied
    obtain ⟨doubted, applied⟩ := seq_eq_ok.1 applied
    obtain ⟨next, settled, applied⟩ := bind_eq_ok.1 applied
    cases applied
    obtain ⟨doubt, unknown⟩ := validateUnknown_eq_ok.1 doubted
    exact ⟨unknown ▸ .reconciledNotApplied (capabilityName_kind reason) retry settled, rfl⟩
  | cancel reasonCode =>
    obtain ⟨status, current⟩ : ∃ status, e.status = status := ⟨_, rfl⟩
    obtain ⟨reason, applied⟩ := seq_eq_ok.1 applied
    rw [current] at applied
    split at applied
    · cases applied
      exact ⟨current ▸ .cancel reason, rfl⟩
    · cases applied

theorem applyKind_of_moves {command : EffectCommandKind} (claimable : e.status.Claimable)
    (moves : Moves (usedLeases e.transitions) now actor e.status kind after)
    (recorded : transitionCommandKind kind = .ok command) :
    e.applyKind command now actor = .ok (after, kind) := by
  obtain ⟨status, current⟩ : ∃ status, e.status = status := ⟨_, rfl⟩
  rw [current] at moves claimable
  cases moves with
  | claim eligible named lasts fresh ends =>
    cases recorded
    rw [Effect.applyKind, current]
    refine seq_eq_ok.2 ⟨by simpa using eligible, ?_⟩
    refine seq_eq_ok.2 ⟨validateNewLeaseId_eq_ok.2 ⟨named, fresh⟩, seq_eq_ok.2 ⟨lasts, ?_⟩⟩
    exact seq_eq_ok.2 ⟨claimable, bind_eq_ok.2 ⟨_, ends, rfl⟩⟩
  | renew owned active lasts ends longer =>
    cases recorded
    refine seq_eq_ok.2 ⟨lasts, bind_eq_ok.2 ⟨_, activeOwnedLease_held current owned active, ?_⟩⟩
    refine bind_eq_ok.2 ⟨_, ends, seq_eq_ok.2 ⟨by simpa using longer, rfl⟩⟩
  | applied owned active valid =>
    cases recorded
    exact seq_eq_ok.2 ⟨valid, bind_eq_ok.2 ⟨_, activeOwnedLease_held current owned active, rfl⟩⟩
  | notApplied owned active reason retry settled =>
    cases recorded
    refine seq_eq_ok.2 ⟨reason, seq_eq_ok.2 ⟨retry, ?_⟩⟩
    exact bind_eq_ok.2 ⟨_, activeOwnedLease_held current owned active,
      bind_eq_ok.2 ⟨_, settled, rfl⟩⟩
  | reported owned active reason =>
    cases recorded
    exact seq_eq_ok.2 ⟨reason, bind_eq_ok.2 ⟨_, activeOwnedLease_held current owned active, rfl⟩⟩
  | expired lapsed =>
    cases recorded
    rw [Effect.applyKind, current]
    refine seq_eq_ok.2 ⟨by simp, seq_eq_ok.2 ⟨by simpa using lapsed, rfl⟩⟩
  | reconciledApplied valid =>
    cases recorded
    exact seq_eq_ok.2 ⟨valid, seq_eq_ok.2 ⟨validateUnknown_eq_ok.2 ⟨_, current⟩, rfl⟩⟩
  | reconciledNotApplied reason retry settled =>
    cases recorded
    exact seq_eq_ok.2 ⟨capabilityName_kind reason, seq_eq_ok.2 ⟨retry, seq_eq_ok.2
      ⟨validateUnknown_eq_ok.2 ⟨_, current⟩, bind_eq_ok.2 ⟨_, settled, rfl⟩⟩⟩⟩
  | cancel reason =>
    cases recorded
    refine seq_eq_ok.2 ⟨reason, ?_⟩
    rw [current]
    rfl

/-- **The command path is the relation**: a command is decided exactly as the
transition that records it moves the status. -/
theorem applyKind_eq_ok {command : EffectCommandKind} (claimable : e.status.Claimable) :
    e.applyKind command now actor = .ok (after, kind) ↔
      Moves (usedLeases e.transitions) now actor e.status kind after ∧
        transitionCommandKind kind = .ok command :=
  ⟨moves_of_applyKind, fun ⟨moves, recorded⟩ => applyKind_of_moves claimable moves recorded⟩

end Effect

theorem identity_kind {kind other value : String} (valid : validateIdentity kind value = .ok ()) :
    validateIdentity other value = .ok () := by
  simp only [validateIdentity, rejectIf_eq_ok] at valid ⊢
  exact valid

theorem Moves.command (moves : Moves used now actor before kind after) :
    ∃ command, transitionCommandKind kind = .ok command := by
  cases moves <;> exact ⟨_, rfl⟩

theorem validateAuthority_ok {kind : String} (actorValid : validateActor actor = .ok ())
    (tenantValid : validateTenant tenantId = .ok ()) :
    validateAuthority ⟨actor, tenantId⟩ kind = .ok () := by
  have message := mapError_eq_ok.1 (mapError_eq_ok.1 actorValid)
  refine mapError_eq_ok.2 (seq_eq_ok.2 ⟨?_, mapError_eq_ok.1 tenantValid⟩)
  exact mapError_eq_ok.2 (currentMessage_kind message)

theorem validateCommand_ok {command : EffectCommand}
    (id : validateIdentity "Effect command" command.id = .ok ())
    (fits : (attributedCommand actor tenantId command.toJson).encodedLen ≤
      maxEffectCommandJsonBytes) : validateCommand command = .ok () := by
  have inside : command.toJson.encodedLen ≤
      (attributedCommand actor tenantId command.toJson).encodedLen := by
    rw [attributedCommand, Json.encodedLen, List.cons_append, fieldsLen, fieldsLen_append,
      fieldsLen, fieldsLen]
    omega
  have sized := boundedSerializedSize_eq_ok.2 ⟨inside.trans fits, rfl⟩
  exact seq_eq_ok.2 ⟨id, bind_eq_ok.2 ⟨_, mapError_eq_ok.2 sized, rfl⟩⟩

section Paths

variable [Sha256]

theorem Replays.claimable {tenantId : Option String} {ts : List EffectTransition}
    {p : EffectProjection} (replays : Replays tenantId ts p) : p.status.Claimable := by
  induction replays with
  | created _ creation =>
    obtain ⟨_, _, status, _⟩ := creation.kind
    rw [status]
    show validateAttempt 1 = .ok ()
    decide +kernel
  | moved _ _ moves ih =>
    obtain ⟨status, moves, rfl⟩ := moves
    exact moves.claimable ih

namespace Effect

/-- An Effect after one more transition. -/
def extend (e : Effect) (t : EffectTransition) (status : EffectStatus) : Effect :=
  { e with status, transitions := e.transitions ++ [t] }

/-- An Effect with the charge of its own encoding. -/
def charged (e : Effect) : Effect :=
  { e with materializationChargeBytes := e.toJson.encodedLen }

variable {tenantId : Option String} {p : EffectProjection} {t : EffectTransition}
  {command : EffectCommandKind} {ts : List EffectTransition}

/-- **A recorded transition is what its command does.**  On an Effect with room for
it, the command that a transition records appends exactly that transition. -/
theorem apply_recorded {e : Effect} {status : EffectStatus}
    (replays : Replays e.tenantId e.transitions e.projection)
    (room : e.transitions.length < maxEffectTransitions)
    (recorded : Recorded e.tenantId e.transitions t)
    (moves : Moves (usedLeases e.transitions) t.appliedAtMs t.actor e.status t.kind status)
    (kind : transitionCommandKind t.kind = .ok command) :
    e.apply ⟨t.commandId, command⟩ t.appliedAtMs ⟨t.actor, e.tenantId⟩ =
      .ok ((e.extend t status).charged, .applied) := by
  have digest := recorded.digest
  rw [transitionDigest_of_command kind] at digest
  obtain ⟨actorValid, tenantValid, fits, _⟩ := attributedDigest_eq_ok.1 digest
  have authorityValid : ∀ text, validateAuthority ⟨t.actor, e.tenantId⟩ text = .ok () :=
    fun _ => validateAuthority_ok actorValid tenantValid
  have unseen : e.recognizesCommand ⟨t.commandId, command⟩ ⟨t.actor, e.tenantId⟩ =
      .ok false := by
    refine seq_eq_ok.2 ⟨validateCommand_ok recorded.commandId fits,
      seq_eq_ok.2 ⟨authorityValid _, ?_⟩⟩
    rw [if_neg (by simp)]
    refine bind_eq_ok.2 ⟨_, digest, ?_⟩
    have absent : (e.transitions.find? fun s => s.commandId == t.commandId) = none :=
      find?_key_eq_none.2 recorded.fresh
    rw [absent]
  have extended : Replays (e.extend t status).tenantId (e.extend t status).transitions
      (e.extend t status).projection :=
    .moved replays recorded ⟨status, moves, rfl⟩
  have count : (e.extend t status).transitions.length ≤ maxEffectTransitions := by
    rw [extend, List.length_append, List.length_singleton]
    exact room
  have decided := (applyKind_eq_ok replays.claimable).2 ⟨moves, kind⟩
  refine bind_eq_ok.2 ⟨false, unseen, seq_eq_ok.2 ⟨recorded.time, seq_eq_ok.2 ⟨authorityValid _, ?_⟩⟩⟩
  refine seq_eq_ok.2 ⟨?_, seq_eq_ok.2 ⟨?_, bind_eq_ok.2 ⟨_, digest, bind_eq_ok.2 ⟨_, decided, ?_⟩⟩⟩⟩
  · rw [rejectIf_decide, not_le]
    exact room
  · rw [rejectIf_eq_ok]
    have ordered := recorded.ordered
    rw [lastTime] at ordered
    cases last : e.transitions.getLast? with
    | none => rfl
    | some s =>
      rw [last] at ordered
      rw [Option.any_some, decide_eq_false_iff_not, UInt64.not_lt]
      exact ordered
  refine bind_eq_ok.2 ⟨_, recorded.sequence, seq_eq_ok.2 ⟨validate_eq_ok.2 ⟨count, extended⟩, ?_⟩⟩
  exact bind_eq_ok.2 ⟨_, encodedSize_of_replays extended count, rfl⟩

/-- The command a transition records, as it was applied. -/
def recordedCommand (tenantId : Option String) (t : EffectTransition) :
    Except HarnessError (EffectCommand × UInt64 × AuthorityContext) := do
  let kind ← transitionCommandKind t.kind
  .ok (⟨t.commandId, kind⟩, t.appliedAtMs, ⟨t.actor, tenantId⟩)

/-- Build an Effect again from the commands its transitions record. -/
def rebuild (tenantId : Option String) : List EffectTransition → Except HarnessError Effect
  | [] => .error (.effect "Effect has no creation transition")
  | first :: rest =>
    match first.kind with
    | .created _ operation idempotencyKey input _ notBeforeMs => do
      let e ← Effect.new ⟨first.commandId, operation, idempotencyKey, input, notBeforeMs⟩
        first.appliedAtMs ⟨first.actor, tenantId⟩
      let commands ← rest.mapM (recordedCommand tenantId)
      e.applyAll commands
    | _ => .error (.effect "Effect transition precedes creation")

theorem rebuild_concat {past : List EffectTransition} {e next : Effect}
    {outcome : EffectApplyOutcome} (built : rebuild tenantId past = .ok e)
    (kind : transitionCommandKind t.kind = .ok command)
    (accepted : e.apply ⟨t.commandId, command⟩ t.appliedAtMs ⟨t.actor, tenantId⟩ =
      .ok (next, outcome)) : rebuild tenantId (past ++ [t]) = .ok next := by
  have recorded : recordedCommand tenantId t =
      .ok (⟨t.commandId, command⟩, t.appliedAtMs, ⟨t.actor, tenantId⟩) :=
    bind_eq_ok.2 ⟨_, kind, rfl⟩
  have last : e.applyAll [(⟨t.commandId, command⟩, t.appliedAtMs, ⟨t.actor, tenantId⟩)] =
      .ok next := bind_eq_ok.2 ⟨_, bind_eq_ok.2 ⟨_, accepted, rfl⟩, rfl⟩
  cases past with
  | nil => cases built
  | cons first rest =>
    obtain ⟨sequence, commandId, commandSha256, now, actor, shape⟩ := first
    cases shape with
    | created =>
      obtain ⟨start, created, built⟩ := bind_eq_ok.1 built
      obtain ⟨commands, read, ran⟩ := bind_eq_ok.1 built
      refine bind_eq_ok.2 ⟨_, created, bind_eq_ok.2 ⟨commands ++ [_], ?_,
        foldlM_append_eq_ok.2 ⟨_, ran, last⟩⟩⟩
      rw [mapM_eq_ok] at read ⊢
      exact List.rel_append read (.cons recorded .nil)
    | _ => cases built

/-- The Effect a history describes. -/
def ofHistory (p : EffectProjection) (ts : List EffectTransition) : Effect :=
  ⟨p.tenantId, p.operation, p.idempotencyKey, p.input, p.inputSha256, p.createdAtMs, p.status, ts, 0⟩

theorem ofHistory_valid (replays : Replays tenantId ts p) (count : ts.length ≤ maxEffectTransitions) :
    (ofHistory p ts).validate = .ok () ∧
      (ofHistory p ts).encodedSize = .ok (ofHistory p ts).toJson.encodedLen := by
  obtain rfl := replays.tenant
  exact ⟨validate_eq_ok.2 ⟨count, replays⟩, encodedSize_of_replays replays count⟩

theorem rebuild_created (recorded : Recorded tenantId [] t) (creation : Creation t p) :
    rebuild tenantId [t] = .ok (ofHistory p [t]).charged := by
  have replays : Replays tenantId [t] p := .created recorded creation
  have tenant := replays.tenant
  obtain ⟨valid, fits⟩ := ofHistory_valid replays (by rw [List.length_singleton]; decide)
  obtain ⟨notBeforeMs, kind, status, time⟩ := creation.kind
  obtain ⟨sequence, commandId, commandSha256, now, actor, shape⟩ := t
  obtain rfl : shape = _ := kind
  obtain rfl : sequence = 1 := recorded.first
  obtain ⟨current, operation, idempotencyKey, input, inputSha256, createdAtMs, status'⟩ := p
  obtain rfl : status' = _ := status
  obtain rfl : createdAtMs = now := creation.createdAt
  obtain rfl : current = tenantId := tenant
  have digest := (seq_eq_ok.1 recorded.digest).2
  obtain ⟨actorValid, tenantValid, _, _⟩ := attributedDigest_eq_ok.1 digest
  obtain ⟨accepted, _⟩ := valueSha256_eq_ok.1 creation.input
  refine bind_eq_ok.2 ⟨_, ?_, bind_eq_ok.2 ⟨[], rfl, rfl⟩⟩
  refine seq_eq_ok.2 ⟨?_, seq_eq_ok.2 ⟨recorded.time, seq_eq_ok.2
    ⟨validateAuthority_ok actorValid tenantValid, ?_⟩⟩⟩
  · refine seq_eq_ok.2 ⟨identity_kind recorded.commandId, seq_eq_ok.2 ⟨creation.operation, ?_⟩⟩
    exact seq_eq_ok.2 ⟨creation.key, seq_eq_ok.2 ⟨accepted, time⟩⟩
  refine bind_eq_ok.2 ⟨_, creation.input, bind_eq_ok.2 ⟨_, digest, ?_⟩⟩
  exact seq_eq_ok.2 ⟨valid, bind_eq_ok.2 ⟨_, fits, rfl⟩⟩

/-- **A history rebuilds itself.** -/
theorem rebuild_history (replays : Replays tenantId ts p) (count : ts.length ≤ maxEffectTransitions) :
    rebuild tenantId ts = .ok (ofHistory p ts).charged := by
  induction replays with
  | created recorded creation => exact rebuild_created recorded creation
  | @moved past p _ t replays recorded moves ih =>
    obtain ⟨status, moves, rfl⟩ := moves
    rw [List.length_append, List.length_singleton] at count
    have built := ih (by omega)
    obtain ⟨command, kind⟩ := moves.command
    obtain rfl := Replays.tenant replays
    have accepted : (ofHistory p past).charged.apply ⟨t.commandId, command⟩ t.appliedAtMs
        ⟨t.actor, p.tenantId⟩ = .ok (((ofHistory p past).charged.extend t status).charged,
          .applied) :=
      apply_recorded replays (show past.length < _ by omega) recorded moves kind
    exact rebuild_concat built kind accepted

/-- **The two paths agree.**  Every Effect that commands build validates, its
transitions replayed to exactly its record; and the commands that the transitions
of a validated Effect record, issued one by one, build it again. -/
theorem command_replay_agree (e : Effect) :
    (Reachable e → e.validate = .ok () ∧ ∃ r, Replay.run e.tenantId e.transitions = .ok r ∧
      r.projection = some e.projection) ∧
    (e.validate = .ok () → rebuild e.tenantId e.transitions =
      .ok { e with materializationChargeBytes := e.toJson.encodedLen }) := by
  constructor
  · intro reached
    have replays := reached.replays
    exact ⟨reached.valid, _, replay_eq_ok.2 (.inr ⟨_, replays, rfl⟩), rfl⟩
  · intro valid
    obtain ⟨count, replays⟩ := validate_eq_ok.1 valid
    exact rebuild_history replays count

end Effect

end Paths

namespace Effect

section Sample

attribute [local instance] constantSha256

theorem command_replay_agree_retry :
    sampleApplied.transitions.length = 6 ∧ sampleApplied.validate = .ok () ∧
      rebuild sampleApplied.tenantId sampleApplied.transitions =
        .ok { sampleApplied with
          materializationChargeBytes := sampleApplied.toJson.encodedLen } := by
  obtain ⟨forward, backward⟩ := command_replay_agree sampleApplied
  have valid := (forward sampleApplied_reachable).1
  exact ⟨by decide +kernel, valid, backward valid⟩

end Sample

end Effect

end YHarness.Effects

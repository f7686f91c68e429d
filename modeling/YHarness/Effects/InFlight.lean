/-
# YHarness.Effects.InFlight -- settling a claimed Effect

The count of transitions is checked alike for every command, so no room is kept
for the command that takes a claimed Effect out of flight.  With room for one
more transition every fresh settlement and expiry of the lease is accepted,
without it the expiry is rejected (`settles_iff_room`); `effect_stranded` renews
a lease until the room is used up.
-/
import YHarness.Effects.Commands

namespace YHarness.Effects

open YHarness.Lib YHarness.Kernel

set_option autoImplicit false

/-! ## Commands that record a move -/

/-- A command is hardly longer than the transition that records it. -/
theorem command_len {kind : EffectTransitionKind} {command : EffectCommandKind}
    (recorded : transitionCommandKind kind = .ok command) :
    command.toJson.encodedLen ≤ kind.toJson.encodedLen + 100 := by
  have keys : ∀ key ∈ ["action", "claim", "lease_id", "lease_duration_ms", "renew_lease",
      "record_applied", "receipt", "record_not_applied", "reason_code", "retry_at_ms",
      "record_unknown", "expire_lease", "reconcile_applied", "attempt", "reconcile_not_applied",
      "cancel"], stringLen key ≤ 26 := by decide
  simp only [List.forall_mem_cons] at keys
  cases kind with
  | created => cases recorded
  | claimed | leaseRenewed | cancelled =>
    cases recorded
    simp only [EffectCommandKind.toJson, EffectTransitionKind.toJson, Json.encodedLen, fieldsLen,
      List.length_cons, List.length_nil]
    omega
  | applied _ _ _ flag | notApplied _ _ _ _ flag | becameUnknown _ _ _ flag =>
    cases flag <;> cases recorded <;>
      simp only [EffectCommandKind.toJson, EffectTransitionKind.toJson, Json.encodedLen,
        fieldsLen, List.length_cons, List.length_nil] <;> omega

section Paths

variable [Sha256]

theorem Replays.last_time {tenantId : Option String} {ts : List EffectTransition}
    {p : EffectProjection} (replays : Replays tenantId ts p) :
    validateApplicationTime (lastTime ts) = .ok () := by
  cases replays with
  | created recorded => exact recorded.time
  | moved _ recorded =>
    rw [lastTime_concat]
    exact recorded.time

namespace Effect

/-- A command is new to an Effect, well formed and not late. -/
structure Fresh (e : Effect) (command : EffectCommand) (now : UInt64)
    (authority : AuthorityContext) : Prop where
  id : validateIdentity "Effect command" command.id = .ok ()
  unused : command.id ∉ e.transitions.map (·.commandId)
  time : validateApplicationTime now = .ok ()
  ordered : lastTime e.transitions ≤ now
  actor : validateActor authority.actor = .ok ()
  tenant : authority.tenantId = e.tenantId

variable {e : Effect} {authority : AuthorityContext} {command : EffectCommand} {now : UInt64}

/-- A fresh command whose transition moves the status is accepted while there is
room for the transition. -/
theorem apply_moves {kind : EffectTransitionKind} {status : EffectStatus}
    (replays : Replays e.tenantId e.transitions e.projection)
    (room : e.transitions.length < maxEffectTransitions) (fresh : e.Fresh command now authority)
    (moves : Moves (usedLeases e.transitions) now authority.actor e.status kind status)
    (recorded : transitionCommandKind kind = .ok command.kind) :
    ∃ t : EffectTransition, t.appliedAtMs = now ∧ t.kind = kind ∧ t.commandId = command.id ∧
      e.apply command now authority = .ok ((e.extend t status).charged, .applied) := by
  obtain ⟨actor, tenantId⟩ := authority
  obtain ⟨commandId, commandKind⟩ := command
  obtain rfl : tenantId = e.tenantId := fresh.tenant
  obtain ⟨_, _, _, _, _, creation⟩ := replays.creation
  have kindLen := (moves.sized replays.sized.1 (effectActor_len fresh.actor)).2
  have commandLen := command_len recorded
  have tenantValid : validateTenant e.tenantId = .ok () := creation.tenant
  have fits := attributed_len fresh.actor tenantValid fresh.id (by omega)
  obtain ⟨digest, digested⟩ : ∃ digest, attributedDigest actor e.tenantId
      (EffectCommand.toJson ⟨commandId, commandKind⟩) = .ok digest :=
    ⟨_, attributedDigest_eq_ok.2 ⟨fresh.actor, tenantValid, fits, rfl⟩⟩
  obtain ⟨sequence, counted⟩ : ∃ sequence, nextSequence e.transitions.length = .ok sequence := by
    have small : e.transitions.length < 4096 := room
    exact ⟨_, numberAfter_eq_ok.2 ⟨by simp only [UInt64.size]; omega, rfl⟩⟩
  let t : EffectTransition := ⟨sequence, commandId, digest, now, actor, kind⟩
  have digestOf : transitionDigest t e.tenantId = .ok digest :=
    (transitionDigest_of_command recorded).trans digested
  have kept : Recorded e.tenantId e.transitions t :=
    ⟨counted, fresh.id, fresh.time, fresh.ordered, fresh.actor, digestOf, fresh.unused⟩
  have applied := apply_recorded (t := t) replays room kept moves recorded
  refine ⟨t, rfl, rfl, rfl, ?_⟩
  exact applied

/-! ## Settlements -/

/-- A fresh command takes a claimed Effect out of flight: anyone expires a lease
that is over, its owner settles one that is not. -/
structure Settles (e : Effect) (lease : EffectLease) (command : EffectCommand) (now : UInt64)
    (authority : AuthorityContext) : Prop extends Fresh e command now authority where
  kind : (command.kind = .expireLease lease.id ∧ lease.expiresAtMs ≤ now) ∨
    (authority.actor = lease.owner ∧ now < lease.expiresAtMs ∧
      ((∃ receipt, command.kind = .recordApplied lease.id receipt ∧
          validateReceipt receipt now = .ok ()) ∨
        (∃ reasonCode retryAtMs, command.kind = .recordNotApplied lease.id reasonCode retryAtMs ∧
          validateCapabilityName "Effect not-applied reason" reasonCode = .ok () ∧
          validateRetryTime retryAtMs now = .ok ()) ∨
        ∃ reasonCode, command.kind = .recordUnknown lease.id reasonCode ∧
          validateCapabilityName "Effect uncertainty reason" reasonCode = .ok ()))

/-- A command is applied and leaves the Effect settled or Unknown. -/
def Accepted (e : Effect) (command : EffectCommand) (now : UInt64)
    (authority : AuthorityContext) : Prop :=
  ∃ next, e.apply command now authority = .ok (next, .applied) ∧
    ∀ lease, next.status ≠ .claimed lease

/-- The attempt in flight is one of the claims of the history. -/
theorem attempt_le (replays : Replays e.tenantId e.transitions e.projection) {lease : EffectLease}
    (claimed : e.status = .claimed lease) :
    lease.attempt.toNat ≤ e.transitions.length := by
  obtain ⟨n, counted, started⟩ := replays.dispatched.attempts
  have same : lease.attempt.toNat = n := by
    rw [show e.projection.status = _ from claimed] at started
    exact started
  have total := congrArg List.length counted
  rw [List.length_map, List.length_range'] at total
  rw [same, ← total]
  exact List.length_filterMap_le _ _

omit [Sha256] in
/-- A settlement records a move out of flight. -/
theorem Settles.moves {lease : EffectLease} (settles : e.Settles lease command now authority)
    (claimed : e.status = .claimed lease) (few : lease.attempt.toNat ≤ 4096) :
    ∃ kind status, Moves (usedLeases e.transitions) now authority.actor e.status kind status ∧
      transitionCommandKind kind = .ok command.kind ∧ ∀ lease, status ≠ .claimed lease := by
  rw [claimed]
  rcases settles.kind with ⟨kind, lapsed⟩ | ⟨owned, active, ⟨receipt, kind, valid⟩ |
    ⟨reasonCode, retryAtMs, kind, reason, retry⟩ | ⟨reasonCode, kind, reason⟩⟩
  · exact ⟨_, _, .expired lapsed, by rw [kind]; rfl, nofun⟩
  · exact ⟨_, _, .applied owned.symm active valid, by rw [kind]; rfl, nofun⟩
  · cases retryAtMs with
    | none => exact ⟨_, _, .notApplied owned.symm active reason retry rfl, by rw [kind]; rfl, nofun⟩
    | some time =>
      have size : lease.attempt.toNat + 1 < UInt32.size := by
        simp only [UInt32.size]
        omega
      have settled : settledNotApplied lease.attempt reasonCode (some time) =
          .ok (.pending (lease.attempt + 1) time) := by
        refine settledNotApplied_eq_ok.2 (.inl ⟨_, _, rfl, toNat_succ size, ?_, rfl⟩)
        rw [UInt32.le_iff_toNat_le, toNat_succ size]
        show lease.attempt.toNat + 1 ≤ 1000000
        omega
      exact ⟨_, _, .notApplied owned.symm active reason retry settled, by rw [kind]; rfl, nofun⟩
  · exact ⟨_, _, .reported owned.symm active reason, by rw [kind]; rfl, nofun⟩

omit [Sha256] in
/-- There is always a command identity left. -/
theorem exists_fresh_command (count : e.transitions.length ≤ maxEffectTransitions) :
    ∃ id, validateIdentity "Effect command" id = .ok () ∧
      id ∉ e.transitions.map (·.commandId) := by
  have few : (e.transitions.map (·.commandId)).length < 2 ^ 40 := by
    have most : e.transitions.length ≤ 4096 := count
    rw [List.length_map]
    omega
  obtain ⟨bits, unused⟩ := exists_fresh_spelling few
  refine ⟨spelledId bits, ?_, unused⟩
  rw [validateIdentity, rejectIf_eq_ok, spelledId_not_blank bits (by omega), spelledId_size,
    spelledId_plain]
  rfl

/-- A claimed Effect can be expired by a fresh command. -/
theorem exists_expiry (replays : Replays e.tenantId e.transitions e.projection)
    (count : e.transitions.length ≤ maxEffectTransitions) (lease : EffectLease) :
    ∃ command now authority, e.Settles lease command now authority := by
  obtain ⟨id, valid, unused⟩ := exists_fresh_command count
  have last : validateApplicationTime (lastTime e.transitions) = .ok () := replays.last_time
  by_cases lapsed : lease.expiresAtMs ≤ lastTime e.transitions
  · exact ⟨⟨id, .expireLease lease.id⟩, lastTime e.transitions, ⟨.localProcess, e.tenantId⟩,
      ⟨valid, unused, last, UInt64.le_refl _, rfl, rfl⟩, .inl ⟨rfl, lapsed⟩⟩
  · have later := UInt64.le_of_lt (UInt64.not_le.1 lapsed)
    refine ⟨⟨id, .expireLease lease.id⟩, lease.expiresAtMs, ⟨.localProcess, e.tenantId⟩,
      ⟨valid, unused, ?_, later, rfl, rfl⟩, .inl ⟨rfl, UInt64.le_refl _⟩⟩
    rw [validateApplicationTime, rejectIf_eq_ok, beq_eq_false_iff_ne] at last ⊢
    rintro zero
    rw [zero] at later
    exact last (UInt64.le_antisymm later (UInt64.zero_le))

/-- Without room, no fresh command is applied. -/
theorem not_accepted (full : maxEffectTransitions ≤ e.transitions.length) :
    ¬ e.Accepted command now authority := by
  rintro ⟨next, applied, _⟩
  obtain ⟨recognized, _, applied⟩ := bind_eq_ok.1 applied
  cases recognized with
  | true => cases applied
  | false =>
    replace applied := rest_ok (rest_ok applied)
    obtain ⟨room, _⟩ := seq_eq_ok.1 applied
    rw [rejectIf_decide] at room
    exact room full

/-- **Settling needs room for one transition.**  Of an Effect that commands built
and that is claimed, every fresh settlement and expiry is accepted exactly when
fewer than 4096 transitions are retained. -/
theorem settles_iff_room {e : Effect} (reached : Reachable e) {lease : EffectLease}
    (claimed : e.status = .claimed lease) :
    (∀ command now authority, e.Settles lease command now authority →
      e.Accepted command now authority) ↔ e.transitions.length < maxEffectTransitions := by
  obtain ⟨count, replays⟩ := validate_eq_ok.1 reached.valid
  constructor
  · intro accepts
    by_contra full
    obtain ⟨command, now, authority, settles⟩ := exists_expiry replays count lease
    exact not_accepted (not_lt.1 full) (accepts command now authority settles)
  · intro room command now authority settles
    have few : lease.attempt.toNat ≤ 4096 := (attempt_le replays claimed).trans count
    obtain ⟨kind, status, moves, recorded, landed⟩ := settles.moves claimed few
    obtain ⟨t, _, _, _, applied⟩ := apply_moves replays room settles.toFresh moves recorded
    exact ⟨_, applied, landed⟩

end Effect

end Paths

/-! ## An Effect without room -/

namespace Effect

section Sample

attribute [local instance] constantSha256

/-- A claimed Effect whose lease runs for a second from its last transition. -/
def Renewed (n : Nat) (e : Effect) (lease : EffectLease) : Prop :=
  e.status = .claimed lease ∧ e.transitions.length = n ∧ e.tenantId = some "tenant" ∧
    lease.owner = .authenticated "test" "worker-1" ∧ (lastTime e.transitions).toNat = 8 + n ∧
    lease.expiresAtMs.toNat = 1008 + n

def sampleClaimed : Effect :=
  (sampleEffect.applyAll
    [(⟨"claim-1", .claim "lease-1" 1000⟩, 10, sampleAuthority "worker-1")]).toOption.getD sampleEffect

example : sampleClaimed.transitions.length = 2 := by decide +kernel

theorem sampleClaimed_reachable : Reachable sampleClaimed := by
  have ran : sampleEffect.applyAll
      [(⟨"claim-1", .claim "lease-1" 1000⟩, 10, sampleAuthority "worker-1")] = .ok sampleClaimed :=
    eq_ok_getD _ (by decide +kernel)
  exact Reachable.applyAll (.new sampleEffect_created) ran

theorem settles_iff_room_claimed :
    (∀ command now authority, sampleClaimed.Settles
        ⟨"lease-1", .authenticated "test" "worker-1", 1, 10, 1010⟩ command now authority →
      sampleClaimed.Accepted command now authority) ↔
    sampleClaimed.transitions.length < maxEffectTransitions :=
  settles_iff_room sampleClaimed_reachable (by decide +kernel)

theorem sampleClaimed_renewed : Renewed 2 sampleClaimed
    ⟨"lease-1", .authenticated "test" "worker-1", 1, 10, 1010⟩ := by
  refine ⟨?_, ?_, ?_, rfl, ?_, ?_⟩ <;> decide +kernel

/-- One renewal later. -/
theorem Renewed.renew {n : Nat} {e : Effect} {lease : EffectLease} (reached : Reachable e)
    (renewed : Renewed n e lease) (room : n < maxEffectTransitions) :
    ∃ next lease, Reachable next ∧ Renewed (n + 1) next lease := by
  obtain ⟨claimed, count, tenant, owned, last, expires⟩ := renewed
  obtain ⟨most, replays⟩ := validate_eq_ok.1 reached.valid
  have small : n < 4096 := room
  obtain ⟨id, valid, unused⟩ := exists_fresh_command most
  have nowIs : (UInt64.ofNat (9 + n)).toNat = 9 + n :=
    UInt64.toNat_ofNat_of_lt' (by simp only [UInt64.size]; omega)
  have ends : leaseExpiration (UInt64.ofNat (9 + n)) 1000 = .ok (UInt64.ofNat (9 + n) + 1000) := by
    rw [leaseExpiration, if_pos]
    rw [nowIs]
    show 9 + n + 1000 < 18446744073709551616
    omega
  have endsAt : (UInt64.ofNat (9 + n) + 1000).toNat = 1009 + n := by
    rw [UInt64.toNat_add, nowIs]
    show (9 + n + 1000) % 18446744073709551616 = _
    omega
  have fresh : e.Fresh ⟨id, .renewLease lease.id 1000⟩ (UInt64.ofNat (9 + n))
      (sampleAuthority "worker-1") := by
    refine ⟨valid, unused, ?_, ?_, by decide +kernel, tenant.symm⟩
    · rw [validateApplicationTime, rejectIf_eq_ok, beq_eq_false_iff_ne]
      rintro zero
      have none := congrArg UInt64.toNat zero
      rw [nowIs, UInt64.toNat_zero] at none
      omega
    · rw [UInt64.le_iff_toNat_le, last, nowIs]
      omega
  have moves : Moves (usedLeases e.transitions) (UInt64.ofNat (9 + n))
      (sampleAuthority "worker-1").actor e.status (.leaseRenewed lease.id 1000 lease.expiresAtMs)
      (.claimed { lease with expiresAtMs := UInt64.ofNat (9 + n) + 1000 }) := by
    rw [claimed]
    refine .renew owned ?_ (by decide +kernel) ends ?_
    · rw [UInt64.lt_iff_toNat_lt, nowIs, expires]
      omega
    · rw [UInt64.lt_iff_toNat_lt, expires, endsAt]
      omega
  obtain ⟨t, time, _, _, applied⟩ := apply_moves replays (count ▸ room) fresh moves rfl
  refine ⟨_, _, .apply reached applied, rfl, ?_, tenant, owned, ?_, ?_⟩
  · show (e.transitions ++ [t]).length = n + 1
    rw [List.length_append, count, List.length_singleton]
  · show (lastTime (e.transitions ++ [t])).toNat = 8 + (n + 1)
    rw [lastTime_concat, time, nowIs]
    omega
  · show (UInt64.ofNat (9 + n) + 1000).toNat = _
    rw [endsAt]
    omega

/-- Renewals use up the room of a claimed Effect. -/
theorem exists_renewed (n : Nat) (few : n + 2 ≤ maxEffectTransitions) :
    ∃ e lease, Reachable e ∧ Renewed (n + 2) e lease := by
  induction n with
  | zero => exact ⟨_, _, sampleClaimed_reachable, sampleClaimed_renewed⟩
  | succ n ih =>
    obtain ⟨e, lease, reached, renewed⟩ := ih (by omega)
    exact renewed.renew reached (by omega)

/-- **A claimed Effect can be stranded.** -/
theorem effect_stranded :
    ¬ ∀ e lease, Reachable e → e.status = .claimed lease → ∀ command now authority,
      e.Settles lease command now authority → e.Accepted command now authority := by
  intro settled
  obtain ⟨e, lease, reached, claimed, full, _⟩ := exists_renewed 4094 (by decide)
  have room := (settles_iff_room reached claimed).1 (settled e lease reached claimed)
  rw [full] at room
  exact absurd room (by decide)

end Sample

end Effect

end YHarness.Effects

/-
# YHarness.Effects.Dispatch -- an external effect is dispatched at most once

A claim hands an attempt to a worker.  Over a history (`Dispatched`) every
earlier claim is followed by an observation that its attempt was not applied and
may be retried, an uncertain attempt by a reconciliation of that kind, and
nothing follows an applied attempt.  `at_most_once_dispatch` reads this off every
Effect that commands can build.
-/
import YHarness.Effects.Moves

namespace YHarness.Effects

open YHarness.Lib YHarness.Kernel

set_option autoImplicit false

/-! ## Observations -/

namespace EffectTransitionKind

/-- The attempt a transition claims. -/
def claim? : EffectTransitionKind → Option (EffectLeaseId × UInt32)
  | claimed leaseId attempt _ => some (leaseId, attempt)
  | _ => none

/-- The attempt a transition leaves uncertain. -/
def doubt? : EffectTransitionKind → Option (EffectLeaseId × UInt32)
  | becameUnknown leaseId attempt _ _ => some (leaseId, attempt)
  | _ => none

/-- The retry time a transition sets. -/
def retry? : EffectTransitionKind → Option UInt64
  | notApplied _ _ _ retryAtMs _ => retryAtMs
  | _ => none

def isApplied : EffectTransitionKind → Bool
  | applied .. => true
  | _ => false

end EffectTransitionKind

namespace EffectStatus

def isTerminal : EffectStatus → Bool
  | applied .. | rejected .. | cancelled .. => true
  | _ => false

/-- The attempt that may be running outside. -/
def inFlight : EffectStatus → Option (EffectLeaseId × UInt32)
  | claimed lease => some (lease.id, lease.attempt)
  | unknown attempt leaseId _ => some (leaseId, attempt)
  | _ => none

/-- The attempt whose outcome is uncertain. -/
def doubted : EffectStatus → Option (EffectLeaseId × UInt32)
  | unknown attempt leaseId _ => some (leaseId, attempt)
  | _ => none

/-- How many attempts were claimed. -/
def Started (n : Nat) : EffectStatus → Prop
  | pending nextAttempt _ => nextAttempt.toNat = n + 1
  | claimed lease => lease.attempt.toNat = n
  | unknown attempt _ _ => attempt.toNat = n
  | _ => True

/-- No retry time lies after `t`, unless the status ends the history. -/
def RetriesBy (past : List EffectTransition) : EffectStatus → Prop
  | pending _ notBeforeMs => ∀ n ∈ past, ∀ retry, n.kind.retry? = some retry → retry ≤ notBeforeMs
  | claimed _ | unknown .. =>
    ∀ n ∈ past, ∀ retry, n.kind.retry? = some retry → retry ≤ lastTime past
  | _ => True

end EffectStatus

/-- `n` observes that the attempt `c` claims was not applied and may be retried. -/
def Retried (c n : EffectTransition) : Prop :=
  ∃ leaseId attempt reasonCode retryAtMs reconciled, c.kind.claim? = some (leaseId, attempt) ∧
    n.kind = .notApplied leaseId attempt reasonCode (some retryAtMs) reconciled

/-- `n` reconciles the attempt `u` leaves uncertain, as not applied and retried. -/
def Reconciled (u n : EffectTransition) : Prop :=
  ∃ leaseId attempt reasonCode retryAtMs, u.kind.doubt? = some (leaseId, attempt) ∧
    n.kind = .notApplied leaseId attempt reasonCode (some retryAtMs) true

/-! ## The invariant of a history -/

/-- What every history with a status keeps. -/
structure Dispatched (past : List EffectTransition) (status : EffectStatus) : Prop where
  attempts : ∃ n, (past.filterMap (·.kind.claim?)).map (·.2.toNat) = List.range' 1 n ∧
    status.Started n
  leases : (past.filterMap EffectTransition.claimedLease).Nodup
  claims : status.isTerminal = false →
    Answered (fun c => ∃ key, c.kind.claim? = some key ∧ status.inFlight ≠ some key) Retried past
  doubts : status.isTerminal = false →
    Answered (fun u => ∃ key, u.kind.doubt? = some key ∧ status.doubted ≠ some key) Reconciled past
  retries : status.RetriesBy past
  open_ : status.isTerminal = false → ∀ t ∈ past, t.kind.isApplied = false
  ends : EndsAt (fun t => t.kind.isApplied = true) past

section Step

variable {past : List EffectTransition} {t : EffectTransition} {before after : EffectStatus}

theorem moves_live {used : List EffectLeaseId} {now : UInt64} {actor : ActorIdentity}
    {kind : EffectTransitionKind} (moves : Moves used now actor before kind after) :
    before.isTerminal = false := by
  cases moves <;> rfl

variable {attempt : UInt32} {retryAtMs : Option UInt64}

theorem toNat_succ (small : attempt.toNat + 1 < UInt32.size) :
    (attempt + 1).toNat = attempt.toNat + 1 := by
  rw [UInt32.toNat_add, UInt32.toNat_one, Nat.mod_eq_of_lt small]

theorem settledNotApplied_eq_ok {reasonCode : String} {status : EffectStatus} :
    settledNotApplied attempt reasonCode retryAtMs = .ok status ↔
      (∃ notBeforeMs next, retryAtMs = some notBeforeMs ∧ next.toNat = attempt.toNat + 1 ∧
        next ≤ maxEffectAttempts ∧ status = .pending next notBeforeMs) ∨
      (retryAtMs = none ∧ status = .rejected attempt reasonCode) := by
  cases retryAtMs with
  | none => simp [settledNotApplied, eq_comm]
  | some notBeforeMs =>
    simp only [settledNotApplied]
    constructor
    · intro settled
      split at settled
      · rename_i small
        cases settled
        exact .inl ⟨_, _, rfl, toNat_succ small.1, small.2, rfl⟩
      · cases settled
    · rintro (⟨_, next, same, counted, small, rfl⟩ | ⟨none, _⟩)
      · cases same
        have room : attempt.toNat + 1 < UInt32.size := counted ▸ next.toNat_lt
        obtain rfl : next = attempt + 1 := by
          rw [← UInt32.toNat_inj, counted, toNat_succ room]
        rw [if_pos ⟨room, small⟩]
      · cases none

/-- The status a settlement as not applied leads to. -/
theorem settled_cases {reasonCode : String} {status : EffectStatus}
    (settled : settledNotApplied attempt reasonCode retryAtMs = .ok status) :
    (∃ retry next, retryAtMs = some retry ∧ next.toNat = attempt.toNat + 1 ∧
      status = .pending next retry) ∨ status.isTerminal = true := by
  rcases settledNotApplied_eq_ok.1 settled with ⟨retry, next, same, counted, _, rfl⟩ | ⟨_, rfl⟩
  · exact .inl ⟨retry, next, same, counted, rfl⟩
  · exact .inr rfl

/-- A transition that opens nothing, or what is held, leaves nothing behind. -/
theorem quiet {α : Type} {held opened : Option α} (own : opened = none ∨ opened = held) :
    ¬ ∃ key, opened = some key ∧ held ≠ some key := by
  rintro ⟨key, rfl, other⟩
  rcases own with none | own
  · cases none
  · exact other own.symm

variable (dispatched : Dispatched past before)
  (moves : Moves (usedLeases past) t.appliedAtMs t.actor before t.kind after)

include dispatched moves

theorem attempts_step : ∃ n, ((past ++ [t]).filterMap (·.kind.claim?)).map (·.2.toNat) =
    List.range' 1 n ∧ after.Started n := by
  obtain ⟨n, counted, started⟩ := dispatched.attempts
  rw [List.filterMap_append, List.map_append, counted]
  obtain ⟨sequence, commandId, commandSha256, now, actor, kind⟩ := t
  cases moves with
  | @claim attempt =>
    refine ⟨n + 1, ?_, started⟩
    rw [List.range'_concat, Nat.one_mul, Nat.add_comm 1 n, ← started]
    rfl
  | renew | reported | expired => exact ⟨n, List.append_nil _, started⟩
  | notApplied _ _ _ _ settled | reconciledNotApplied _ _ settled =>
    rcases settled_cases settled with ⟨retry, next, _, counted, rfl⟩ | ended
    · exact ⟨n, List.append_nil _, counted.trans (congrArg (· + 1) started)⟩
    · refine ⟨n, List.append_nil _, ?_⟩
      cases after <;> trivial
  | applied | reconciledApplied | cancel => exact ⟨n, List.append_nil _, trivial⟩

theorem leases_step : ((past ++ [t]).filterMap EffectTransition.claimedLease).Nodup := by
  rw [List.filterMap_append]
  have kept := dispatched.leases
  obtain ⟨sequence, commandId, commandSha256, now, actor, kind⟩ := t
  cases moves with
  | @claim _ _ _ _ leaseId _ _ _ fresh =>
    rw [usedLeases, List.mem_reverse] at fresh
    exact List.nodup_append'.2 ⟨kept, List.nodup_singleton leaseId,
      List.disjoint_singleton.2 fresh⟩
  | _ => exact (List.append_nil (past.filterMap EffectTransition.claimedLease)).symm ▸ kept

theorem claims_step (live : after.isTerminal = false) :
    Answered (fun c => ∃ key, c.kind.claim? = some key ∧ after.inFlight ≠ some key) Retried
      (past ++ [t]) := by
  have answered := dispatched.claims (moves_live moves)
  obtain ⟨sequence, commandId, commandSha256, now, actor, kind⟩ := t
  cases moves with
  | claim =>
    refine Answered.concat (answered.imp ?_) (quiet (.inr rfl))
    rintro c ⟨key, claimed, _⟩
    exact ⟨key, claimed, nofun⟩
  | renew | reported | expired => exact answered.concat (quiet (.inl rfl))
  | notApplied _ _ _ _ settled | reconciledNotApplied _ _ settled =>
    rcases settled_cases settled with ⟨retry, next, rfl, _, rfl⟩ | ended
    · refine Answered.close (answered.imp ?_) (quiet (.inl rfl))
      rintro c ⟨⟨key, claimed, _⟩, unanswered⟩
      refine ⟨key, claimed, fun own => unanswered ?_⟩
      exact ⟨_, _, _, retry, _, claimed.trans own.symm, rfl⟩
    · rw [live] at ended
      cases ended
  | applied | reconciledApplied | cancel => cases live

theorem doubts_step (live : after.isTerminal = false) :
    Answered (fun u => ∃ key, u.kind.doubt? = some key ∧ after.doubted ≠ some key) Reconciled
      (past ++ [t]) := by
  have answered := dispatched.doubts (moves_live moves)
  obtain ⟨sequence, commandId, commandSha256, now, actor, kind⟩ := t
  cases moves with
  | claim | renew => exact answered.concat (quiet (.inl rfl))
  | reported | expired =>
    refine Answered.concat (answered.imp ?_) (quiet (.inr rfl))
    rintro u ⟨key, doubted, _⟩
    exact ⟨key, doubted, nofun⟩
  | notApplied _ _ _ _ settled =>
    rcases settled_cases settled with ⟨retry, next, rfl, _, rfl⟩ | ended
    · exact answered.concat (quiet (.inl rfl))
    · rw [live] at ended
      cases ended
  | reconciledNotApplied _ _ settled =>
    rcases settled_cases settled with ⟨retry, next, rfl, _, rfl⟩ | ended
    · refine Answered.close (answered.imp ?_) (quiet (.inl rfl))
      rintro u ⟨⟨key, doubted, _⟩, unanswered⟩
      refine ⟨key, doubted, fun own => unanswered ?_⟩
      exact ⟨_, _, _, retry, doubted.trans own.symm, rfl⟩
    · rw [live] at ended
      cases ended
  | applied | reconciledApplied | cancel => cases live

theorem retries_step (ordered : lastTime past ≤ t.appliedAtMs) : after.RetriesBy (past ++ [t]) := by
  have earlier := dispatched.retries
  -- a bound on the past and on the new transition is one on both
  have both : ∀ {bound : UInt64}, (∀ n ∈ past, ∀ retry, n.kind.retry? = some retry →
      retry ≤ bound) → (∀ retry, t.kind.retry? = some retry → retry ≤ bound) →
      ∀ n ∈ past ++ [t], ∀ retry, n.kind.retry? = some retry → retry ≤ bound := by
    intro bound old new n member
    rcases List.mem_append.1 member with before | last
    · exact old n before
    · exact List.mem_singleton.1 last ▸ new
  obtain ⟨sequence, commandId, commandSha256, now, actor, kind⟩ := t
  have last := lastTime_concat past ⟨sequence, commandId, commandSha256, now, actor, kind⟩
  cases moves with
  | claim eligible =>
    rw [EffectStatus.RetriesBy, last]
    exact both (fun n member retry found => UInt64.le_trans (earlier n member retry found) eligible)
      nofun
  | renew | reported | expired =>
    rw [EffectStatus.RetriesBy, last]
    exact both (fun n member retry found => UInt64.le_trans (earlier n member retry found) ordered)
      nofun
  | notApplied _ _ _ retried settled | reconciledNotApplied _ retried settled =>
    rcases settled_cases settled with ⟨retry, next, rfl, _, rfl⟩ | ended
    · have later := (seq_eq_ok.1 retried).1
      simp only [rejectIf_eq_ok, Option.any_some, decide_eq_false_iff_not, UInt64.not_lt] at later
      refine both (fun n member retry found => ?_) (fun retry found => ?_)
      · exact UInt64.le_trans (earlier n member retry found) (UInt64.le_trans ordered later)
      · cases found
        exact UInt64.le_refl _
    · cases after <;> trivial
  | applied | reconciledApplied | cancel => trivial

theorem open_step (live : after.isTerminal = false) :
    ∀ s ∈ past ++ [t], s.kind.isApplied = false := by
  intro s member
  rcases List.mem_append.1 member with earlier | last
  · exact dispatched.open_ (moves_live moves) s earlier
  · rw [List.mem_singleton.1 last]
    obtain ⟨sequence, commandId, commandSha256, now, actor, kind⟩ := t
    cases moves with
    | applied | reconciledApplied => cases live
    | _ => rfl

/-- **One transition** keeps the invariant. -/
theorem Dispatched.step (ordered : lastTime past ≤ t.appliedAtMs) :
    Dispatched (past ++ [t]) after where
  attempts := attempts_step dispatched moves
  leases := leases_step dispatched moves
  claims := claims_step dispatched moves
  doubts := doubts_step dispatched moves
  retries := retries_step dispatched moves ordered
  open_ := open_step dispatched moves
  ends := EndsAt.concat t fun s member => by
    rw [dispatched.open_ (moves_live moves) s member]
    exact Bool.false_ne_true

end Step

section History

variable [Sha256]

variable {p : EffectProjection} {tenantId : Option String}

theorem Creation.dispatched {t : EffectTransition} (creation : Creation t p) :
    Dispatched [t] p.status := by
  obtain ⟨notBeforeMs, kind, status, _⟩ := creation.kind
  rw [status]
  obtain ⟨sequence, commandId, commandSha256, now, actor, shape⟩ := t
  obtain rfl : shape = _ := kind
  refine ⟨⟨0, rfl, rfl⟩, List.nodup_nil, fun _ => ?_, fun _ => ?_, ?_, fun _ s member => ?_, ?_⟩
  · exact Answered.nil.concat nofun
  · exact Answered.nil.concat nofun
  · intro n member retry found
    rw [List.mem_singleton.1 member] at found
    cases found
  · rw [List.mem_singleton.1 member]
    rfl
  · show EndsAt _ ([] ++ [_])
    exact EndsAt.concat _ nofun

/-- **Every history** keeps the invariant. -/
theorem Replays.dispatched {ts : List EffectTransition} (replays : Replays tenantId ts p) :
    Dispatched ts p.status := by
  induction replays with
  | created _ creation => exact creation.dispatched
  | moved _ recorded moves ih =>
    obtain ⟨status, moves, rfl⟩ := moves
    exact ih.step moves recorded.ordered

/-! ## What commands build -/

namespace Effect

/-- A command either changes nothing or leaves an Effect that validates. -/
theorem valid_of_apply {e next : Effect} {command : EffectCommand} {appliedAtMs : UInt64}
    {authority : AuthorityContext} {outcome : EffectApplyOutcome}
    (accepted : e.apply command appliedAtMs authority = .ok (next, outcome)) :
    next = e ∨ next.validate = .ok () := by
  obtain ⟨recognized, _, accepted⟩ := bind_eq_ok.1 accepted
  cases recognized with
  | true =>
    cases accepted
    exact .inl rfl
  | false =>
    iterate 4 replace accepted := rest_ok accepted
    obtain ⟨_, _, accepted⟩ := bind_eq_ok.1 accepted
    obtain ⟨_, _, accepted⟩ := bind_eq_ok.1 accepted
    obtain ⟨_, _, accepted⟩ := bind_eq_ok.1 accepted
    obtain ⟨valid, accepted⟩ := seq_eq_ok.1 accepted
    obtain ⟨_, _, accepted⟩ := bind_eq_ok.1 accepted
    cases accepted
    exact .inr valid

/-- **Every Effect that commands build validates.** -/
theorem Reachable.valid {e : Effect} (reached : Reachable e) : e.validate = .ok () := by
  induction reached with
  | new created =>
    iterate 3 replace created := rest_ok created
    obtain ⟨_, _, created⟩ := bind_eq_ok.1 created
    obtain ⟨_, _, created⟩ := bind_eq_ok.1 created
    obtain ⟨valid, created⟩ := seq_eq_ok.1 created
    obtain ⟨_, _, created⟩ := bind_eq_ok.1 created
    cases created
    exact valid
  | apply _ accepted ih =>
    rcases valid_of_apply accepted with rfl | valid
    · exact ih
    · exact valid

theorem Reachable.replays {e : Effect} (reached : Reachable e) :
    Replays e.tenantId e.transitions e.projection :=
  (validate_eq_ok.1 reached.valid).2

/-- **At most one dispatch.**  In every Effect that commands build, (a) an earlier
claim is followed, before a later one, by an observation that its attempt was not
applied with a retry time that the later claim respects, and so is an uncertain
outcome by a reconciliation of that kind; (b) nothing follows the one transition
that applies the Effect; (c) the claims are attempts 1, 2, ... under distinct
leases. -/
theorem at_most_once_dispatch {e : Effect} (reached : Reachable e) :
    (∀ before c between d after, e.transitions = before ++ c :: (between ++ d :: after) →
      ∀ leaseId attempt, c.kind.claim? = some (leaseId, attempt) → d.kind.claim?.isSome = true →
      ∃ n ∈ between, ∃ reasonCode retryAtMs reconciled,
        n.kind = .notApplied leaseId attempt reasonCode (some retryAtMs) reconciled ∧
        retryAtMs ≤ d.appliedAtMs) ∧
    (∀ before u between d after, e.transitions = before ++ u :: (between ++ d :: after) →
      ∀ leaseId attempt, u.kind.doubt? = some (leaseId, attempt) → d.kind.claim?.isSome = true →
      ∃ n ∈ between, ∃ reasonCode retryAtMs,
        n.kind = .notApplied leaseId attempt reasonCode (some retryAtMs) true ∧
        retryAtMs ≤ d.appliedAtMs) ∧
    (∀ before a after, e.transitions = before ++ a :: after → a.kind.isApplied = true →
      after = [] ∧ ∀ b ∈ before, b.kind.isApplied = false) ∧
    (∃ n, (e.transitions.filterMap (·.kind.claim?)).map (·.2.toNat) = List.range' 1 n) ∧
    (e.transitions.filterMap EffectTransition.claimedLease).Nodup := by
  have replays := reached.replays
  have dispatched := replays.dispatched
  -- a history that a claim extends is Pending and eligible
  have eligible : ∀ past d after, e.transitions = past ++ d :: after → past ≠ [] →
      d.kind.claim?.isSome = true → ∃ attempt notBeforeMs,
        Dispatched past (.pending attempt notBeforeMs) ∧ notBeforeMs ≤ d.appliedAtMs := by
    intro past d after parts later claims
    obtain ⟨q, _, earlier, _, status, moves, _⟩ := replays.split parts later
    have kept := Replays.dispatched earlier
    obtain ⟨sequence, commandId, commandSha256, now, actor, kind⟩ := d
    generalize q.status = current at moves kept
    cases moves with
    | claim eligible => exact ⟨_, _, kept, eligible⟩
    | _ => cases claims
  refine ⟨?_, ?_, ?_, ?_, dispatched.leases⟩
  · intro before c between d after parts leaseId attempt claimed claims
    rw [← List.cons_append, ← List.append_assoc] at parts
    obtain ⟨_, notBeforeMs, kept, early⟩ := eligible _ d after parts (by simp) claims
    obtain ⟨n, member, own, number, reasonCode, retryAtMs, reconciled, same, kind⟩ :=
      kept.claims rfl before c between rfl ⟨_, claimed, nofun⟩
    obtain ⟨rfl, rfl⟩ := Prod.mk.inj (Option.some.inj (claimed.symm.trans same))
    refine ⟨n, member, reasonCode, retryAtMs, reconciled, kind, UInt64.le_trans ?_ early⟩
    exact kept.retries n (by simp [member]) retryAtMs (by rw [kind]; rfl)
  · intro before u between d after parts leaseId attempt doubted claims
    rw [← List.cons_append, ← List.append_assoc] at parts
    obtain ⟨_, notBeforeMs, kept, early⟩ := eligible _ d after parts (by simp) claims
    obtain ⟨n, member, own, number, reasonCode, retryAtMs, same, kind⟩ :=
      kept.doubts rfl before u between rfl ⟨_, doubted, nofun⟩
    obtain ⟨rfl, rfl⟩ := Prod.mk.inj (Option.some.inj (doubted.symm.trans same))
    refine ⟨n, member, reasonCode, retryAtMs, kind, UInt64.le_trans ?_ early⟩
    exact kept.retries n (by simp [member]) retryAtMs (by rw [kind]; rfl)
  · intro before a after parts applied
    have last := dispatched.ends before a after parts applied
    refine ⟨last, fun b member => ?_⟩
    obtain ⟨front, back, rfl⟩ := List.append_of_mem member
    rw [List.append_assoc, List.cons_append] at parts
    rw [Bool.eq_false_iff]
    intro also
    have none := dispatched.ends front b _ parts also
    simp at none
  · obtain ⟨n, counted, _⟩ := dispatched.attempts
    exact ⟨n, counted⟩

end Effect

end History

namespace Effect

section Sample

attribute [local instance] constantSha256

/-- A lease expires, its attempt is reconciled as not applied, and the retry is
applied. -/
def sampleRetry : List (EffectCommand × UInt64 × AuthorityContext) :=
  [(⟨"claim-1", .claim "lease-1" 1000⟩, 10, sampleAuthority "worker-1"),
    (⟨"expire", .expireLease "lease-1"⟩, 1010, sampleAuthority "driver"),
    (⟨"reconcile", .reconcileNotApplied "lease-1" 1 "connection.refused" (some 1100)⟩, 1020,
      sampleAuthority "reconciler"),
    (⟨"claim-2", .claim "lease-2" 1000⟩, 1100, sampleAuthority "worker-2"),
    (⟨"applied", .recordApplied "lease-2" ⟨"mail.provider", "provider-42", 1150,
      "aaaaaaaaaaaaaaaaaaaaaaaaaaaaaaaaaaaaaaaaaaaaaaaaaaaaaaaaaaaaaaaa"⟩⟩, 1200,
      sampleAuthority "worker-2")]

example : (sampleEffect.applyAll (sampleRetry.take 2)).toOption.isSome = true := by
  decide +kernel

def sampleApplied : Effect :=
  (sampleEffect.applyAll sampleRetry).toOption.getD sampleEffect

theorem sampleApplied_reachable : Reachable sampleApplied := by
  have ran : sampleEffect.applyAll sampleRetry = .ok sampleApplied :=
    eq_ok_getD _ (by decide +kernel)
  exact Reachable.applyAll (.new sampleEffect_created) ran

theorem at_most_once_dispatch_retry :
    (sampleApplied.transitions.filterMap EffectTransition.claimedLease) = ["lease-1", "lease-2"] ∧
      ∃ n, (sampleApplied.transitions.filterMap (·.kind.claim?)).map (·.2.toNat) =
        List.range' 1 n :=
  ⟨by decide +kernel, (at_most_once_dispatch sampleApplied_reachable).2.2.2.1⟩

end Sample

end Effect

end YHarness.Effects

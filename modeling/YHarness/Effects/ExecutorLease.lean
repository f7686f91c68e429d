/-
# YHarness.Effects.ExecutorLease -- an attempt within its lease

A worker runs in a world with a clock.  The governor and the Connector take any time up to their
timeouts, and everything else after the reading of the claim time takes the settlement reserve at
most.  `EffectExecutorConfig::validate` leaves room in the lease for the Connector and the
reserve only: that suffices without a governor, and with one where the lease also has room for
its two calls (`lease_outlives_attempt`).  `lease_expires_in_attempt` is an accepted
configuration with less.
-/
import YHarness.Effects.Executor

namespace YHarness.Effects

open YHarness.Lib YHarness.Kernel

set_option autoImplicit false

/-- The time, and the time taken by other steps since the claim time was read. -/
structure LeaseWorld where
  now : Nat
  spent : Nat
  claimedAt : Option Nat
  expiresAt : Option Nat
deriving DecidableEq

namespace LeaseWorld

def start (now : Nat) : LeaseWorld := ⟨now, 0, none, none⟩

/-- Time goes by in one of the other steps. -/
def wait (w : LeaseWorld) (ms : Nat) : LeaseWorld :=
  { w with now := w.now + ms, spent := w.spent + ms }

/-- Time goes by in a call that has a timeout. -/
def take (w : LeaseWorld) (ms : Nat) : LeaseWorld :=
  { w with now := w.now + ms }

/-- The claim time is read. -/
def claiming (w : LeaseWorld) : LeaseWorld :=
  { w with spent := 0, claimedAt := some w.now }

/-- A claim that is committed has an end. -/
def answered (w : LeaseWorld) : Except HarnessError EffectCommandResult → LeaseWorld
  | .ok result =>
    match result.snapshot.effect.status with
    | .claimed lease => { w with expiresAt := some lease.expiresAtMs.toNat }
    | _ => w
  | .error _ => w

/-- A lease that was claimed has not ended. -/
def Active (w : LeaseWorld) : Prop :=
  ∀ ends, w.expiresAt = some ends → w.now < ends

end LeaseWorld

/-- How long a call may take by the configuration. -/
def EffectExecutorConfig.callTimeoutMs (c : EffectExecutorConfig) : ExecutorCall → Nat
  | .admitAs .. | .settleAs .. => c.governorTimeoutMs.toNat
  | .execute _ => c.executionTimeoutMs.toNat
  | _ => 0

/-- The time of the lease that an attempt may need. -/
def EffectExecutor.neededMs (e : EffectExecutor) : Nat :=
  (if e.governor.isSome then 2 * e.config.governorTimeoutMs.toNat else 0) +
    e.config.executionTimeoutMs.toNat + e.config.settlementReserveMs.toNat

/-- What a call of the governor takes, if there is one. -/
def EffectExecutor.governorMs (e : EffectExecutor) : Nat :=
  if e.governor.isSome then e.config.governorTimeoutMs.toNat else 0

/-- What `validate` leaves room for. -/
theorem EffectExecutorConfig.reserve_of_validate {c : EffectExecutorConfig}
    (valid : c.validate = .ok ()) :
    c.executionTimeoutMs.toNat + c.settlementReserveMs.toNat < c.leaseDurationMs.toNat := by
  unfold EffectExecutorConfig.validate at valid
  iterate 7 replace valid := rest_ok valid
  obtain ⟨small, outlives⟩ := seq_eq_ok.1 valid
  rw [rejectIf_decide, Nat.not_le] at small
  rw [rejectIf_decide, UInt64.not_le, UInt64.lt_iff_toNat_lt,
    UInt64.toNat_add, Nat.mod_eq_of_lt small] at outlives
  exact outlives

section Lease

variable [Sha256]

/-- A clock that agrees with the time, and replies within the timeouts. -/
def leaseSetting (c : EffectExecutorConfig) : Setting ExecutorCall ExecutorReply LeaseWorld where
  rely w w' := ∃ ms, w' = w.wait ms ∧
    (w.claimedAt.isSome → w.spent + ms ≤ c.settlementReserveMs.toNat)
  exec w call reply w' :=
    match call, reply with
    | .nowMs .claiming, some now => now.toNat = w.now ∧ w' = w.claiming
    | .nowMs _, some now => now.toNat = w.now ∧ w' = w
    | .nowMs _, none => w' = w
    | .applyAs effectId revision command now authority, reply =>
      EngineAnswers effectId revision command now authority reply ∧ w' = w.answered reply
    | call, _ => ∃ ms, ms ≤ c.callTimeoutMs call ∧ w' = w.take ms

/-- Every call of a worker that has a lease is made before the lease ends. -/
def ActiveCall (w : LeaseWorld) (_ : ExecutorCall) : Prop :=
  w.Active

variable {e : EffectExecutor} {w : LeaseWorld} {n : Nat} {cycleId : String} {p : PreparedEffect}
  {authority : AuthorityContext} {context : EffectSettlementContext}

/-- A lease in which calls with a timeout have taken `n` at most. -/
structure Held (c : EffectExecutorConfig) (n : Nat) (w : LeaseWorld) : Prop where
  lease : ∃ claimedAt, w.claimedAt = some claimedAt ∧
    w.expiresAt = some (claimedAt + c.leaseDurationMs.toNat) ∧ w.now ≤ claimedAt + w.spent + n
  spent : w.spent ≤ c.settlementReserveMs.toNat

omit [Sha256] in
theorem Held.active {c : EffectExecutorConfig} (held : Held c n w)
    (room : n + c.settlementReserveMs.toNat < c.leaseDurationMs.toNat) : w.Active := by
  obtain ⟨claimedAt, _, ends, soon⟩ := held.lease
  have spent := held.spent
  intro _ same
  rw [ends] at same
  cases same
  omega

theorem Held.wait {c : EffectExecutorConfig} (held : Held c n w) {v : LeaseWorld}
    (relied : (leaseSetting c).rely w v) : Held c n v := by
  obtain ⟨ms, rfl, bounded⟩ := relied
  obtain ⟨claimedAt, claimed, ends, soon⟩ := held.lease
  refine ⟨⟨claimedAt, claimed, ends, ?_⟩, bounded (by rw [claimed]; rfl)⟩
  show w.now + ms ≤ claimedAt + (w.spent + ms) + n
  omega

omit [Sha256] in
theorem Held.take {c : EffectExecutorConfig} (held : Held c n w) {ms limit : Nat}
    (within : ms ≤ limit) : Held c (n + limit) (w.take ms) := by
  obtain ⟨claimedAt, claimed, ends, soon⟩ := held.lease
  refine ⟨⟨claimedAt, claimed, ends, ?_⟩, held.spent⟩
  show w.now + ms ≤ claimedAt + w.spent + (n + limit)
  omega

omit [Sha256] in
theorem Held.later {c : EffectExecutorConfig} {m : Nat} (held : Held c n w) (le : n ≤ m) :
    Held c m w := by
  obtain ⟨claimedAt, claimed, ends, soon⟩ := held.lease
  exact ⟨⟨claimedAt, claimed, ends, by omega⟩, held.spent⟩

/-! ## After the claim -/

/-- A call within the lease. -/
theorem ensures_leased {α : Type} {post : α → LeaseWorld → Prop} {call : ExecutorCall}
    {f : ExecutorReply call → ExecutorTask α} (held : Held e.config n w)
    (room : n + e.config.settlementReserveMs.toNat < e.config.leaseDurationMs.toNat)
    (next : ∀ v reply u, Held e.config n v → (leaseSetting e.config).exec v call reply u →
      Ensures (leaseSetting e.config) ActiveCall post (f reply) u) :
    Ensures (leaseSetting e.config) ActiveCall post ((ExecutorTask.ask call).bind f) w :=
  fun v relied => ⟨(held.wait relied).active room, fun reply u executes =>
    next v reply u (held.wait relied) executes⟩

/-- A call with a timeout. -/
theorem ensures_timed {α : Type} {post : α → LeaseWorld → Prop} {call : ExecutorCall}
    {f : ExecutorReply call → ExecutorTask α} (held : Held e.config n w)
    (room : n + e.config.settlementReserveMs.toNat < e.config.leaseDurationMs.toNat)
    (timed : ∀ v reply u, (leaseSetting e.config).exec v call reply u →
      ∃ ms, ms ≤ e.config.callTimeoutMs call ∧ u = v.take ms)
    (next : ∀ reply u, Held e.config (n + e.config.callTimeoutMs call) u →
      Ensures (leaseSetting e.config) ActiveCall post (f reply) u) :
    Ensures (leaseSetting e.config) ActiveCall post ((ExecutorTask.ask call).bind f) w := by
  refine ensures_leased held room fun v reply u here executes => ?_
  obtain ⟨ms, within, rfl⟩ := timed v reply u executes
  exact next reply _ (here.take within)

/-- A reading of the clock within the lease. -/
theorem ensures_clock {α : Type} {post : α → LeaseWorld → Prop} {reading : ClockReading}
    {f : Option UInt64 → ExecutorTask α} (held : Held e.config n w)
    (room : n + e.config.settlementReserveMs.toNat < e.config.leaseDurationMs.toNat)
    (later : reading ≠ .claiming)
    (next : ∀ now u, Held e.config n u →
      Ensures (leaseSetting e.config) ActiveCall post (f now) u) :
    Ensures (leaseSetting e.config) ActiveCall post
      ((ExecutorTask.ask (.nowMs reading)).bind f) w := by
  refine ensures_leased held room fun v now u here executes => ?_
  have same : u = v := by
    cases reading with
    | claiming => exact absurd rfl later
    | _ => cases now with
      | none => exact executes
      | some _ => exact executes.2
  exact next now u (same ▸ here)

/-- What becomes of the attempt does not matter here. -/
def Anything (_ : EffectExecutorAttempt) (_ : LeaseWorld) : Prop := True

theorem ensures_settleCommand (purpose : String) (kind : EffectCommandKind)
    (outcome : EffectExecutionOutcome) (settledAtMs : UInt64) (held : Held e.config n w)
    (room : n + e.config.settlementReserveMs.toNat < e.config.leaseDurationMs.toNat) :
    Ensures (leaseSetting e.config) ActiveCall Anything
      (context.settleCommand purpose kind outcome settledAtMs) w := by
  refine ensures_leased held room fun _ reply _ _ _ => ?_
  cases reply with
  | ok result => trivial
  | error error => cases error <;> trivial

theorem ensures_settleAt (outcome : EffectExecutionOutcome) (absolute : Option UInt64)
    (settledAtMs : UInt64) (held : Held e.config n w)
    (room : n + e.config.settlementReserveMs.toNat < e.config.leaseDurationMs.toNat) :
    Ensures (leaseSetting e.config) ActiveCall Anything
      (context.settleAt outcome absolute settledAtMs) w := by
  unfold EffectSettlementContext.settleAt
  split
  · exact ensures_settleCommand _ _ _ _ held room
  · split <;> exact ensures_settleCommand _ _ _ _ held room
  · exact ensures_settleCommand _ _ _ _ held room

theorem ensures_settle (outcome : EffectExecutionOutcome) (held : Held e.config n w)
    (room : n + e.config.settlementReserveMs.toNat < e.config.leaseDurationMs.toNat) :
    Ensures (leaseSetting e.config) ActiveCall Anything (context.settle outcome) w := by
  refine ensures_clock held room nofun fun now _ held => ?_
  cases now with
  | none => trivial
  | some settledAtMs => exact ensures_settleAt _ _ _ held room

theorem ensures_settleGovernorDenial (reasonCode : String) (retryAtMs : UInt64)
    (denial : EffectExecutorAttemptOutcome) (held : Held e.config n w)
    (room : n + e.config.settlementReserveMs.toNat < e.config.leaseDurationMs.toNat) :
    Ensures (leaseSetting e.config) ActiveCall Anything
      (context.settleGovernorDenial reasonCode retryAtMs denial) w := by
  refine ensures_clock held room nofun fun now _ held => ?_
  cases now with
  | none => trivial
  | some settledAtMs => exact (ensures_settleAt _ _ _ held room).bind fun _ _ _ => trivial

theorem ensures_settleGovernor (settlement : EffectDispatchSettlement) (settledAtMs : UInt64)
    (held : Held e.config n w)
    (room : n + e.config.settlementReserveMs.toNat < e.config.leaseDurationMs.toNat) :
    Ensures (leaseSetting e.config) ActiveCall (fun _ => Held e.config (n + e.governorMs))
      (e.settleGovernor p authority settlement settledAtMs) w := by
  unfold EffectExecutor.settleGovernor EffectExecutor.governorMs
  cases e.governor with
  | none => exact held
  | some _ => exact ensures_timed held room (fun _ _ _ executes => executes) fun _ _ held => held

section Room

variable (room : e.neededMs < e.config.leaseDurationMs.toNat)
include room

omit [Sha256] in
/-- The calls that come before the last settlement leave the reserve. -/
theorem room_of_le {needed : Nat}
    (le : needed ≤ 2 * e.governorMs + e.config.executionTimeoutMs.toNat) :
    needed + e.config.settlementReserveMs.toNat < e.config.leaseDurationMs.toNat := by
  unfold EffectExecutor.neededMs at room
  unfold EffectExecutor.governorMs at le
  cases e.governor <;> simp at room le <;> omega

theorem ensures_dispatch (held : Held e.config e.governorMs w) :
    Ensures (leaseSetting e.config) ActiveCall Anything (e.dispatch p authority context) w := by
  refine ensures_timed held (room_of_le room (by omega)) (fun _ _ _ executes => executes)
    fun event _ held => ?_
  have within : e.governorMs + e.config.executionTimeoutMs.toNat ≤
      2 * e.governorMs + e.config.executionTimeoutMs.toNat := by omega
  refine ensures_clock held (room_of_le room within) nofun fun now _ held => ?_
  cases now with
  | none => trivial
  | some settledAtMs =>
    refine (ensures_settleGovernor _ _ held (room_of_le room within)).bind fun _ _ held => ?_
    refine (ensures_settleAt _ _ _ held (room_of_le room ?_)).bind fun _ _ _ => trivial
    show e.governorMs + e.config.executionTimeoutMs.toNat + e.governorMs ≤ _
    omega

theorem ensures_giveBack (held : Held e.config e.governorMs w) :
    Ensures (leaseSetting e.config) ActiveCall (fun _ => Held e.config (2 * e.governorMs))
      (e.giveBack p authority) w := by
  rw [Nat.two_mul]
  unfold EffectExecutor.giveBack
  split
  · exact held.later (Nat.le_add_right _ _)
  · refine ensures_clock held (room_of_le room (by omega)) nofun fun now _ held => ?_
    cases now with
    | none => exact held.later (Nat.le_add_right _ _)
    | some settledAtMs => exact ensures_settleGovernor _ _ held (room_of_le room (by omega))

theorem ensures_abandon (held : Held e.config e.governorMs w) :
    Ensures (leaseSetting e.config) ActiveCall Anything (e.abandon p authority context) w := by
  refine (ensures_giveBack room held).bind fun _ _ held => ?_
  exact (ensures_settle _ held (room_of_le room (by omega))).bind fun _ _ _ => trivial

theorem ensures_admitted (held : Held e.config e.governorMs w) :
    Ensures (leaseSetting e.config) ActiveCall Anything (e.admitted p authority context) w := by
  refine ensures_timed held (room_of_le room (by omega)) (fun _ _ _ executes => executes)
    fun cancelled _ held => ?_
  cases cancelled with
  | true => exact ensures_abandon room held
  | false => exact ensures_dispatch room held

theorem ensures_govern (held : Held e.config 0 w) :
    Ensures (leaseSetting e.config) ActiveCall Anything (e.govern p authority context) w := by
  have early : ∀ {needed}, needed ≤ e.governorMs →
      needed + e.config.settlementReserveMs.toNat < e.config.leaseDurationMs.toNat :=
    fun le => room_of_le room (by omega)
  unfold EffectExecutor.govern
  split
  · exact ensures_admitted room (held.later (Nat.zero_le _))
  · rename_i policy governed
    have timeout : e.config.governorTimeoutMs.toNat = e.governorMs := by
      unfold EffectExecutor.governorMs
      rw [governed]
      rfl
    refine ensures_clock held (early (Nat.zero_le _)) nofun fun now _ held => ?_
    cases now with
    | none => trivial
    | some admittedAtMs =>
      refine ensures_timed held (early (Nat.zero_le _)) (fun _ _ _ executes => executes)
        fun decision u held => ?_
      have held : Held e.config e.governorMs u := by
        rw [← timeout]
        exact held.later (Nat.le_of_eq (Nat.zero_add _))
      split
      · exact ensures_admitted room held
      · exact ensures_admitted room held
      · exact ensures_settleGovernorDenial _ _ _ held (early (Nat.le_refl _))
      · exact ensures_settleGovernorDenial _ _ _ held (early (Nat.le_refl _))
      · exact ensures_settleGovernorDenial _ _ _ held (early (Nat.le_refl _))

theorem ensures_afterClaim (held : Held e.config 0 w) :
    Ensures (leaseSetting e.config) ActiveCall Anything (e.afterClaim p authority context) w := by
  have early := room_of_le room (Nat.zero_le _)
  refine ensures_timed held early (fun _ _ _ executes => executes) fun cancelled _ held => ?_
  cases cancelled with
  | true => exact ensures_settle _ held early
  | false => exact ensures_govern room held

end Room

/-! ## Until the claim -/

/-- No lease is claimed. -/
def Free (w : LeaseWorld) : Prop :=
  w.expiresAt = none

omit [Sha256] in
theorem Free.active (free : Free w) : w.Active := by
  intro _ same
  rw [free] at same
  cases same

theorem ensures_free {α : Type} {post : Except EffectExecutorAttempt α → LeaseWorld → Prop}
    {call : ExecutorCall} {f : ExecutorReply call → ExecutorM α} (free : Free w)
    (timed : ∀ v reply u, (leaseSetting e.config).exec v call reply u →
      ∃ ms, ms ≤ e.config.callTimeoutMs call ∧ u = v.take ms)
    (next : ∀ reply u, Free u → Ensures (leaseSetting e.config) ActiveCall post (f reply).run u) :
    Ensures (leaseSetting e.config) ActiveCall post (ExecutorM.ask call >>= f).run w := by
  rintro v ⟨ms, rfl, _⟩
  refine ⟨Free.active free, fun reply u executes => ?_⟩
  obtain ⟨_, _, rfl⟩ := timed _ reply u executes
  exact next reply _ free

theorem ensures_permit (free : Free w) :
    Ensures (leaseSetting e.config) ActiveCall (fun outcome u => outcome = .ok () → Free u)
      (e.permit p authority).run w := by
  refine Ensures.checkBind (fun _ _ => nofun) fun registered _ => ?_
  refine ensures_free free (fun _ _ _ executes => executes) fun _ _ free => ?_
  refine Ensures.checkBind (fun _ _ => nofun) fun _ _ => ?_
  refine ensures_free free (fun _ _ _ executes => executes) fun _ _ free => ?_
  refine Ensures.checkBind (fun _ _ => nofun) fun _ _ => ?_
  refine ensures_free free (fun _ _ _ executes => executes) fun _ _ free => ?_
  exact Ensures.check fun _ => free

/-- A claim that was applied now ends its lease after the duration. -/
theorem Taken.claims {command : EffectCommand} {now : UInt64} {result : EffectCommandResult}
    {leaseId : EffectLeaseId} {leaseDurationMs : UInt64} {lease : EffectLease}
    (taken : Taken command now authority result) (fresh : result.outcome ≠ .duplicate)
    (claims : command.kind = .claim leaseId leaseDurationMs)
    (status : result.snapshot.effect.status = .claimed lease) :
    lease.expiresAtMs.toNat = now.toNat + leaseDurationMs.toNat := by
  cases taken with
  | duplicate outcome _ => exact absurd outcome fresh
  | @applied current t _ decided _ _ =>
    rw [claims, status, Effect.applyKind] at decided
    split at decided
    · iterate 4 replace decided := rest_ok decided
      obtain ⟨expiresAtMs, ends, decided⟩ := bind_eq_ok.1 decided
      obtain rfl := EffectStatus.claimed.inj (Prod.mk.inj (Except.ok.inj decided)).1
      unfold leaseExpiration at ends
      split at ends
      · rename_i small
        cases ends
        rw [UInt64.toNat_add, Nat.mod_eq_of_lt small]
      · cases ends
    · cases decided

theorem ensures_claim (free : Free w) :
    Ensures (leaseSetting e.config) ActiveCall
      (fun outcome u => ∀ claimed, outcome = .ok claimed → Held e.config 0 u)
      (e.claim p authority).run w := by
  rintro v ⟨ms, rfl, _⟩
  refine ⟨Free.active free, fun now u executes => ?_⟩
  refine Ensures.checkBind (fun _ _ _ => nofun) fun claimTime read => ?_
  rw [orError_eq_ok] at read
  subst read
  obtain ⟨agrees, rfl⟩ := executes
  rintro _ ⟨ms', rfl, bounded⟩
  refine ⟨Free.active free, fun reply u executes => ?_⟩
  obtain ⟨answers, rfl⟩ := executes
  refine Ensures.check fun claimed accepted => ?_
  cases reply with
  | error error => cases error <;> cases accepted
  | ok result =>
    obtain ⟨store, store', applied⟩ := answers
    obtain ⟨fresh, accepted⟩ := seq_eq_ok.1 accepted
    rw [rejectIf_eq_ok, beq_eq_false_iff_ne] at fresh
    split at accepted
    · rename_i lease status
      have ends := (EffectCoordinator.applyAs_taken applied).claims fresh rfl status
      refine ⟨⟨w.now + ms, ?_, ?_, ?_⟩, ?_⟩
      all_goals rw [LeaseWorld.answered, status]
      · rfl
      · dsimp only
        rw [ends, agrees]
        rfl
      · show w.now + ms + ms' ≤ w.now + ms + (0 + ms') + 0
        omega
      · exact bounded rfl
    · cases accepted

/-- **An attempt fits its lease** in a configuration with room for everything it may do. -/
theorem ensures_executePrepared (room : e.neededMs < e.config.leaseDurationMs.toNat)
    (free : Free w) :
    Ensures (leaseSetting e.config) ActiveCall Anything
      (e.executePrepared cycleId p authority) w := by
  have permitted : Ensures (leaseSetting e.config) ActiveCall
      (fun outcome u => ∀ claimed, outcome = .ok claimed → Held e.config 0 u)
      (ExceptT.run (do
        e.permit p authority
        e.claim p authority)) w :=
    Ensures.tryBind (ensures_permit free) (fun _ _ _ _ => nofun)
      fun _ _ permitted => ensures_claim (permitted rfl)
  refine permitted.bind fun outcome _ held => ?_
  cases outcome with
  | error attempt => trivial
  | ok claimed => exact ensures_afterClaim room (held claimed rfl)

end Lease

/-! ## Configurations -/

/-- **An Effect attempt fits its lease.**  The configuration is accepted, and where there is a
governor its two calls fit as well: then every call of a worker, up to the one that settles, is
made before the lease ends, however the delays fall. -/
theorem lease_outlives_attempt [Sha256] (e : EffectExecutor) (valid : e.config.validate = .ok ())
    (governed : e.governor.isSome → 2 * e.config.governorTimeoutMs.toNat +
      e.config.executionTimeoutMs.toNat + e.config.settlementReserveMs.toNat <
        e.config.leaseDurationMs.toNat)
    (cycleId : String) (p : PreparedEffect) (authority : AuthorityContext) (now : Nat)
    {call : ExecutorCall} {next : ExecutorReply call → ExecutorTask EffectExecutorAttempt}
    {w v : LeaseWorld}
    (reached : Task.Reaches (leaseSetting e.config) (e.executePrepared cycleId p authority)
      (.start now) (.call call next) w)
    (relied : (leaseSetting e.config).rely w v) : v.Active := by
  have room : e.neededMs < e.config.leaseDurationMs.toNat := by
    unfold EffectExecutor.neededMs
    split
    · rename_i present
      exact governed present
    · rw [Nat.zero_add]
      exact e.config.reserve_of_validate valid
  have free : Free (.start now) := rfl
  exact ((ensures_executePrepared room free).reaches reached v relied).1

/-! ## A lease that is too short -/

section Sample

attribute [local instance] constantSha256

/-- How long a worker waits before a call and how long the call takes. -/
structure LeaseMove where
  waits : Nat
  takes : Nat

/-- The store of one pending Effect. -/
def sampleStore : EffectCoordinator :=
  .memory ⟨(∅ : OrdMap StoreKey EffectSnapshot).insert (storageKey "effect-1" (some "tenant"))
    ⟨"effect-1", some "tenant", 1, Effect.sampleEffect⟩, ∅⟩

/-- The surroundings admit and dispatch the Effect of the sample. -/
def LeaseWorld.reply (v : LeaseWorld) (takes : Nat) :
    (call : ExecutorCall) → Option (ExecutorReply call × LeaseWorld)
  | .isCancelled => some (false, v.take takes)
  | .authorize _ => some (.decided .allow, v.take takes)
  | .nowMs .claiming => some (some (UInt64.ofNat v.now), v.claiming)
  | .nowMs _ => some (some (UInt64.ofNat v.now), v)
  | .applyAs effectId revision command now authority =>
    match sampleStore.applyAs effectId revision command now authority with
    | .ok (result, _) => some (.ok result, v.answered (.ok result))
    | .error _ => none
  | .admitAs _ _ => some (some .allow, v.take takes)
  | .execute _ => some (.elapsed, v.take takes)
  | .settleAs _ _ _ _ => some (true, v.take takes)

/-- The waits and the calls keep to the reserve and to the timeouts. -/
def LeaseWorld.answer (c : EffectExecutorConfig) (move : LeaseMove) (w : LeaseWorld)
    (call : ExecutorCall) : Option (ExecutorReply call × LeaseWorld) :=
  if w.claimedAt.isSome ∧ c.settlementReserveMs.toNat < w.spent + move.waits ∨
      c.callTimeoutMs call < move.takes ∨ UInt64.size ≤ w.now + move.waits then none
  else (w.wait move.waits).reply move.takes call

theorem LeaseWorld.answer_legal {c : EffectExecutorConfig} (move : LeaseMove) (w : LeaseWorld)
    (call : ExecutorCall) (reply : ExecutorReply call) (u : LeaseWorld)
    (answered : answer c move w call = some (reply, u)) :
    ∃ v, (leaseSetting c).rely w v ∧ (leaseSetting c).exec v call reply u := by
  unfold answer at answered
  split at answered
  · cases answered
  · rename_i within
    simp only [not_or, not_and, Nat.not_lt, Nat.not_le] at within
    obtain ⟨reserve, timely, small⟩ := within
    refine ⟨w.wait move.waits, ⟨_, rfl, reserve⟩, ?_⟩
    have agrees : (UInt64.ofNat (w.wait move.waits).now).toNat = (w.wait move.waits).now :=
      UInt64.toNat_ofNat_of_lt' small
    unfold LeaseWorld.reply at answered
    split at answered
    case h_5 =>
      split at answered
      · rename_i result store' applied
        obtain ⟨rfl, rfl⟩ := Prod.mk.inj (Option.some.inj answered)
        exact ⟨⟨_, store', applied⟩, rfl⟩
      · cases answered
    case h_3 =>
      obtain ⟨rfl, rfl⟩ := Prod.mk.inj (Option.some.inj answered)
      exact ⟨agrees, rfl⟩
    case h_4 reading later =>
      obtain ⟨rfl, rfl⟩ := Prod.mk.inj (Option.some.inj answered)
      cases reading with
      | claiming => exact absurd rfl later
      | _ => exact ⟨agrees, rfl⟩
    all_goals
      obtain ⟨rfl, rfl⟩ := Prod.mk.inj (Option.some.inj answered)
      exact ⟨move.takes, timely, rfl⟩

/-- An executor of the sample's Effect under a governor. -/
def sampleExecutor (leaseDurationMs : UInt64) : EffectExecutor :=
  ⟨(∅ : OrdMap String RegisteredEffectConnector).insert "channel.email"
      ⟨.builtIn, ["send"], .targetEnforced⟩,
    some ⟨"policy", 10, 1000, 3, 1000, 1000, 604800000⟩,
    { EffectExecutorConfig.default with leaseDurationMs }⟩

/-- Twenty-five seconds go by after the claim; the admission and the Connector take what they
may. -/
def sampleMoves : List LeaseMove :=
  [⟨0, 0⟩, ⟨0, 0⟩, ⟨0, 0⟩, ⟨1000, 0⟩, ⟨0, 0⟩, ⟨25001, 0⟩, ⟨0, 0⟩, ⟨0, 5000⟩, ⟨0, 0⟩, ⟨0, 240000⟩,
    ⟨0, 0⟩, ⟨0, 0⟩]

def samplePrepared : PreparedEffect :=
  .of "cycle" ⟨"effect-1", some "tenant", 1, Effect.sampleEffect⟩ 1 (Effect.sampleAuthority "worker")

/-- The call records what came of an attempt. -/
def ExecutorCall.settles : ExecutorCall → Bool
  | .applyAs _ _ ⟨_, .recordApplied ..⟩ .. => true
  | .applyAs _ _ ⟨_, .recordNotApplied ..⟩ .. => true
  | .applyAs _ _ ⟨_, .recordUnknown ..⟩ .. => true
  | _ => false

def atSettlement {α : Type} : ExecutorTask α → Bool
  | .call call _ => call.settles
  | .done _ => false

/-- The attempt of the sample up to its settlement. -/
theorem sample_reaches (leaseDurationMs : UInt64) (w : LeaseWorld)
    (computed : (((sampleExecutor leaseDurationMs).executePrepared "cycle" samplePrepared
      (Effect.sampleAuthority "worker")).follow
        (LeaseWorld.answer (sampleExecutor leaseDurationMs).config) sampleMoves (.start 0)).map
          (fun r => (atSettlement r.1, r.2)) = some (true, w)) :
    ∃ call next, call.settles = true ∧
      Task.Reaches (leaseSetting (sampleExecutor leaseDurationMs).config)
      ((sampleExecutor leaseDurationMs).executePrepared "cycle" samplePrepared
        (Effect.sampleAuthority "worker")) (.start 0) (.call call next) w := by
  obtain ⟨⟨task, u⟩, followed, here⟩ := Option.map_eq_some_iff.1 computed
  obtain ⟨settles, rfl⟩ := Prod.mk.inj here
  cases task with
  | done attempt => cases settles
  | call call next =>
    exact ⟨call, next, settles, Task.reaches_of_follow LeaseWorld.answer_legal followed⟩

example : (sampleExecutor 270001).config.validate = .ok () := by decide +kernel

/-- **A lease ends before its attempt is settled.**  The configuration is accepted; the Connector
has reached its timeout and the settlement is made when the lease is over. -/
theorem lease_expires_in_attempt : (sampleExecutor 270001).config.validate = .ok () ∧
    ∃ call next w, Task.Reaches (leaseSetting (sampleExecutor 270001).config)
      ((sampleExecutor 270001).executePrepared "cycle" samplePrepared
        (Effect.sampleAuthority "worker")) (.start 0) (.call call next) w ∧
      call.settles = true ∧ ¬ w.Active := by
  refine ⟨by decide +kernel, ?_⟩
  obtain ⟨call, next, settles, reached⟩ := sample_reaches 270001 ⟨271001, 25001, some 1000, some 271001⟩
    (by decide +kernel)
  exact ⟨call, next, _, reached, settles, fun active => absurd (active _ rfl) (Nat.lt_irrefl _)⟩

/-- The default lease has room for the same attempt. -/
theorem lease_outlives_attempt_sample :
    LeaseWorld.Active ⟨271001, 25001, some 1000, some 301000⟩ := by
  obtain ⟨call, next, _, reached⟩ := sample_reaches 300000 ⟨271001, 25001, some 1000, some 301000⟩
    (by decide +kernel)
  exact lease_outlives_attempt (sampleExecutor 300000) (by decide +kernel)
    (fun _ => by decide +kernel) "cycle" samplePrepared (Effect.sampleAuthority "worker") 0 reached
    ⟨0, rfl, fun _ => by decide⟩

end Sample

end YHarness.Effects

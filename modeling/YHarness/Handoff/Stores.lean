/-
# YHarness.Handoff.Stores -- the Handoff stores apply each command once

A store of Human Handoffs is a ledger of aggregates, like a store of Workflow Runs;
a creation or a command is recognized only for the actor who sent it.  The in-memory
coordinator answers every run of calls as the ledger does.  The SQLite coordinator
does so where there is room in its integer column for the times of new Handoffs
(`sqlRoom`).
-/
import YHarness.Lib.CommandLedger
import YHarness.Handoff.Coordinator
import YHarness.Handoff.Reserve

namespace YHarness.Handoff

open YHarness.Lib YHarness.Kernel

set_option autoImplicit false

abbrev HandoffCall :=
  LedgerCall HumanHandoffId AuthorityContext HumanHandoffCreateRequest HumanHandoffCommand

abbrev HandoffAnswer :=
  LedgerAnswer HumanHandoffSnapshot

theorem validateAccess_eq_ok {handoffId : HumanHandoffId} {authority : AuthorityContext}
    (access : validateAccess handoffId authority = .ok ()) :
    validateTenant authority.tenantId = .ok () :=
  (seq_eq_ok.1 (seq_eq_ok.1 access).1).2

section Paths

variable [Sha256]

/-! ## The calls of a coordinator -/

def MemoryHumanHandoffCoordinator.call (store : MemoryHumanHandoffCoordinator) :
    HandoffCall → Except HarnessError (HandoffAnswer × MemoryHumanHandoffCoordinator) :=
  LedgerCall.on store.createAs store.loadAs store.applyAs
    (fun result => (result.snapshot, result.outcome == .duplicate)) store

def SqliteHumanHandoffCoordinator.call (store : SqliteHumanHandoffCoordinator) :
    HandoffCall → Except HarnessError (HandoffAnswer × SqliteHumanHandoffCoordinator) :=
  LedgerCall.on store.createAs store.loadAs store.applyAs
    (fun result => (result.snapshot, result.outcome == .duplicate)) store

/-- The room that the column of request times has. -/
def sqlRoom (appliedAtMs : UInt64) : Except HarnessError Unit := do
  let _ ← sqlTime appliedAtMs
  .ok ()

/-- The operations of Human Handoffs. -/
def handoffAggregates :
    Aggregates HumanHandoffId AuthorityContext HumanHandoffCreateRequest HumanHandoffCommand
      StoreKey HumanHandoffSnapshot HumanHandoffTransition HumanHandoffCommandId HarnessError where
  key handoffId authority := storageKey handoffId authority.tenantId
  access := validateAccess
  start handoffId request appliedAtMs authority := do
    let handoff ← HumanHandoff.new request appliedAtMs authority
    .ok ⟨handoffId, authority.tenantId, 1, handoff⟩
  created snapshot request authority := snapshot.handoff.createMatches request authority.actor
  differs := existsDifferently
  missing := missingHandoff
  checkExpected := validateExpectedRevision
  recognizes snapshot command authority :=
    snapshot.handoff.recognizesCommand command authority.actor
  revision := HumanHandoffSnapshot.revision
  conflict handoffId expected actual := .humanHandoffConflict handoffId expected actual
  advance _ snapshot command appliedAtMs authority := do
    let (handoff, outcome) ← snapshot.handoff.apply command appliedAtMs authority
    let revision ← nextRevision snapshot.revision
    .ok (⟨snapshot.id, snapshot.tenantId, revision, handoff⟩, outcome == .duplicate)
  history snapshot := snapshot.handoff.transitions
  name := HumanHandoffTransition.commandId
  commandName := HumanHandoffCommand.id

@[simp] theorem handoffAggregates_key (handoffId : HumanHandoffId) (authority : AuthorityContext) :
    handoffAggregates.key handoffId authority = storageKey handoffId authority.tenantId := rfl

/-- A snapshot under its key: commands built its Handoff, one revision for each. -/
structure HumanHandoffSnapshot.Sound (key : StoreKey) (snapshot : HumanHandoffSnapshot) :
    Prop where
  key : storageKey snapshot.id snapshot.tenantId = key
  tenant : validateTenant snapshot.tenantId = .ok ()
  reachable : snapshot.handoff.Reachable
  revision : snapshot.revision.toNat = snapshot.handoff.transitions.length

/-- A command of this actor is one of the transitions of a Handoff. -/
def HumanHandoff.Wrote (h : HumanHandoff) (command : HumanHandoffCommand)
    (actor : ActorIdentity) : Prop :=
  validateCommand command = .ok () ∧ ∃ t ∈ h.transitions,
    t.commandId = command.id ∧ attributedDigest actor command.toJson = .ok t.commandSha256

/-- A request of this actor is the one that created a Handoff. -/
def HumanHandoff.BeganWith (h : HumanHandoff) (request : HumanHandoffCreateRequest)
    (actor : ActorIdentity) : Prop :=
  ∃ t, h.transitions.head? = some t ∧ t.commandId = request.commandId ∧ t.actor = actor ∧
    t.kind = .created request.subject request.queue request.reasonCode request.priority

/-- No other request or actor has the digest of the one that created a Handoff. -/
def HumanHandoff.TellsApart (h : HumanHandoff) (request : HumanHandoffCreateRequest)
    (actor : ActorIdentity) : Prop :=
  ∀ original creator, h.BeganWith original creator →
    Sha256.digest (.json (attributedCommand creator original.toJson)) =
      Sha256.digest (.json (attributedCommand actor request.toJson)) →
    original = request ∧ creator = actor

/-! ## One Handoff -/

/-- No command is recorded twice. -/
theorem Replays.distinct {request : HandoffRequest} {ts : List HumanHandoffTransition}
    {status : HumanHandoffStatus} (replays : Replays request ts status) :
    (ts.map (·.commandId)).Nodup := by
  exact Lib.Replays.nodup _ Recorded.fresh replays

namespace HumanHandoff

variable {h next : HumanHandoff} {request : HumanHandoffCreateRequest}
  {command : HumanHandoffCommand} {actor : ActorIdentity} {appliedAtMs : UInt64}
  {authority : AuthorityContext} {outcome : HumanHandoffApplyOutcome}

/-- A command of the history is recognized. -/
theorem recognizes_of_wrote (distinct : (h.transitions.map (·.commandId)).Nodup)
    (wrote : h.Wrote command actor) : h.recognizesCommand command actor = .ok true := by
  obtain ⟨valid, t, member, named, digested⟩ := wrote
  obtain ⟨known, _⟩ := attributedDigest_eq_ok.1 digested
  refine seq_eq_ok.2 ⟨valid, seq_eq_ok.2 ⟨known, bind_eq_ok.2 ⟨_, digested, ?_⟩⟩⟩
  have found : h.transitions.find? (fun t => t.commandId == command.id) = some t :=
    (find?_key_eq_some distinct).2 ⟨member, named⟩
  rw [found]
  dsimp only
  rw [if_pos (beq_self_eq_true _)]

theorem wrote_of_recognizes (recognized : h.recognizesCommand command actor = .ok true) :
    h.Wrote command actor := by
  obtain ⟨valid, recognized⟩ := seq_eq_ok.1 recognized
  replace recognized := rest_ok recognized
  obtain ⟨digest, computed, recognized⟩ := bind_eq_ok.1 recognized
  cases found : h.transitions.find? fun t => t.commandId == command.id with
  | none =>
    rw [found] at recognized
    cases recognized
  | some existing =>
    rw [found] at recognized
    dsimp only at recognized
    split at recognized
    · rename_i same
      rw [← beq_iff_eq.1 same] at computed
      refine ⟨valid, existing, List.mem_of_find?_eq_some found, ?_, computed⟩
      have holds := List.find?_some found
      exact beq_iff_eq.1 holds
    · cases recognized

/-- A new command is recorded after everything else, and keeps the request. -/
theorem apply_extends (replays : Replays h.request h.transitions h.status)
    (unseen : h.recognizesCommand command authority.actor = .ok false)
    (accepted : h.apply command appliedAtMs authority = .ok (next, outcome)) :
    outcome = .applied ∧ next.Wrote command authority.actor ∧ next.request = h.request ∧
      ∃ t, next.transitions = h.transitions ++ [t] ∧ t.commandId = command.id := by
  cases outcome with
  | applied =>
    obtain ⟨kind, after, size, admits, _, rfl⟩ := (apply_eq_applied replays).1 accepted
    have last : h.transitionFor command appliedAtMs authority.actor kind ∈
        h.transitions ++ [h.transitionFor command appliedAtMs authority.actor kind] :=
      List.mem_append_right _ List.mem_cons_self
    exact ⟨rfl, ⟨admits.wellFormed, _, last, rfl, admits.digest⟩, rfl, _, rfl, rfl⟩
  | duplicate =>
    cases unseen.symm.trans (recognized_of_duplicate accepted).1

/-- What a creation records. -/
theorem new_records (created : HumanHandoff.new request appliedAtMs authority = .ok h) :
    h.BeganWith request authority.actor ∧ h.transitions.length = 1 ∧
      h.requestedAtMs = appliedAtMs := by
  iterate 3 replace created := rest_ok created
  obtain ⟨_, _, created⟩ := bind_eq_ok.1 created
  replace created := rest_ok created
  obtain ⟨_, _, created⟩ := bind_eq_ok.1 created
  cases created
  exact ⟨⟨_, rfl, rfl, rfl, rfl⟩, rfl, rfl⟩

theorem new_positive (created : HumanHandoff.new request appliedAtMs authority = .ok h) :
    0 < appliedAtMs.toNat := by
  replace created := rest_ok created
  obtain ⟨time, _⟩ := seq_eq_ok.1 created
  rw [validateApplicationTime, rejectIf_eq_ok, beq_eq_false_iff_ne] at time
  refine Nat.pos_of_ne_zero fun zero => time ?_
  exact UInt64.toNat_inj.1 zero

/-- The digest of the creation is the digest of its request. -/
theorem createMatches_of_began (replays : Replays h.request h.transitions h.status)
    (began : h.BeganWith request actor) : h.createMatches request actor = .ok true := by
  obtain ⟨t, first, named, rfl, kind⟩ := began
  obtain ⟨t', rest, parts, recorded, _⟩ := replays.creation
  rw [parts, List.head?_cons] at first
  cases first
  have digested := recorded.digest
  rw [transitionDigest, named, kind] at digested
  refine bind_eq_ok.2 ⟨_, digested, ?_⟩
  rw [parts, List.head?_cons, Option.any_some, named, beq_self_eq_true, beq_self_eq_true]
  rfl

/-- A request that matches is the one that created the Handoff, when it can be told
apart. -/
theorem began_of_createMatches (replays : Replays h.request h.transitions h.status)
    (apart : h.TellsApart request actor) (same : h.createMatches request actor = .ok true) :
    h.BeganWith request actor := by
  obtain ⟨digest, computed, same⟩ := bind_eq_ok.1 same
  obtain ⟨_, _, rfl⟩ := attributedDigest_eq_ok.1 computed
  obtain ⟨t, rest, parts, recorded, creation⟩ := replays.creation
  have began : h.BeganWith ⟨t.commandId, h.subject, h.queue, h.reasonCode, h.priority⟩ t.actor :=
    ⟨t, by rw [parts, List.head?_cons], rfl, rfl, creation.kind⟩
  rw [parts, List.head?_cons, Option.any_some] at same
  have both := Except.ok.inj same
  rw [Bool.and_eq_true, beq_iff_eq, beq_iff_eq] at both
  have digested := recorded.digest
  rw [transitionDigest, creation.kind] at digested
  obtain ⟨_, _, hashed⟩ := attributedDigest_eq_ok.1 digested
  obtain ⟨request_, actor_⟩ := apart _ _ began (hashed.symm.trans both.2)
  rw [← request_, ← actor_]
  exact began

end HumanHandoff

/-! ## The ledger -/

theorem handoffLaws :
    handoffAggregates.Laws HumanHandoffSnapshot.Sound
      (fun snapshot command authority => snapshot.handoff.Wrote command authority.actor)
      (fun snapshot request authority => snapshot.handoff.BeganWith request authority.actor)
      (fun caller other => caller.actor = other.actor)
      (fun snapshot request authority => snapshot.handoff.TellsApart request authority.actor) where
  numbered sound := sound.revision
  distinct sound := sound.reachable.replays.distinct
  start := by
    intro handoffId request appliedAtMs authority snapshot access started
    obtain ⟨handoff, created, started⟩ := bind_eq_ok.1 started
    cases started
    obtain ⟨began, one, _⟩ := HumanHandoff.new_records created
    exact ⟨⟨rfl, validateAccess_eq_ok access, .new created, one.symm⟩, began, one⟩
  advance := by
    intro handoffId snapshot command appliedAtMs authority next duplicate sound unseen advanced
    obtain ⟨⟨handoff, outcome⟩, accepted, advanced⟩ := bind_eq_ok.1 advanced
    obtain ⟨revision, counted, advanced⟩ := bind_eq_ok.1 advanced
    cases advanced
    obtain ⟨rfl, wrote, _, t, longer, named⟩ :=
      HumanHandoff.apply_extends sound.reachable.replays unseen accepted
    refine ⟨rfl, ⟨sound.key, sound.tenant, .apply sound.reachable accepted, ?_⟩, wrote, t, longer,
      named⟩
    show revision.toNat = handoff.transitions.length
    rw [toNat_checkedNext counted, sound.revision, longer, List.length_append,
      List.length_singleton]
  wroteLater := by
    rintro key snapshot next t command authority _ longer ⟨valid, u, member, wrote⟩
    refine ⟨valid, u, ?_, wrote⟩
    rw [show next.handoff.transitions = _ from longer]
    exact List.mem_append_left _ member
  beganLater := by
    rintro key snapshot next t request authority sound longer ⟨u, first, began⟩
    refine ⟨u, ?_, began⟩
    rw [show next.handoff.transitions = _ from longer, List.head?_append, show
      (handoffAggregates.history snapshot).head? = some u from first]
    rfl
  wroteOf := HumanHandoff.wrote_of_recognizes
  recognized := by
    intro handoffId snapshot command caller other sound wrote like _
    rw [show caller.actor = other.actor from like] at wrote
    exact HumanHandoff.recognizes_of_wrote sound.reachable.replays.distinct wrote
  recreated := by
    intro handoffId snapshot request caller other sound began like _
    rw [show caller.actor = other.actor from like] at began
    exact HumanHandoff.createMatches_of_began sound.reachable.replays began
  beganOf := by
    intro key snapshot request authority sound apart same
    exact HumanHandoff.began_of_createMatches sound.reachable.replays apart same

/-! ## The in-memory coordinator -/

/-- The map of the coordinator holds these snapshots. -/
def MemoryHumanHandoffCoordinator.Shows (held : StoreKey → Option HumanHandoffSnapshot)
    (store : MemoryHumanHandoffCoordinator) : Prop :=
  ∀ key, store.handoffs[key]? = held key

omit [Sha256] in
theorem MemoryHumanHandoffCoordinator.Shows.insert {held : StoreKey → Option HumanHandoffSnapshot}
    {store : MemoryHumanHandoffCoordinator} (shows : Shows held store) (key : StoreKey)
    (snapshot : HumanHandoffSnapshot) :
    Shows (Function.update held key (some snapshot)) ⟨store.handoffs.insert key snapshot⟩ := by
  intro k
  rw [← funext shows]
  exact congrFun (OrdMap.get?_insert store.handoffs key snapshot) k

/-- **The in-memory coordinator is the ledger.** -/
theorem memory_implements :
    handoffAggregates.Implements Aggregates.anyTime MemoryHumanHandoffCoordinator.call
      MemoryHumanHandoffCoordinator.empty MemoryHumanHandoffCoordinator.Shows := by
  refine handoffLaws.implements (fun key => OrdMap.get?_empty key) ?_
  intro held store c _ shows
  cases c with
  | create handoffId request appliedAtMs authority =>
    refine .packaged (.shared _ fun _ _ => ?_)
    rw [shows, handoffAggregates_key]
    cases held (storageKey handoffId authority.tenantId) with
    | some existing =>
      refine .shared _ fun same _ => ?_
      cases same with
      | true => exact .ok ⟨rfl, shows⟩
      | false => exact .error _
    | none =>
      show Alike _ (HumanHandoff.new request appliedAtMs authority >>= _ >>= _) _
      cases HumanHandoff.new request appliedAtMs authority with
      | error e => exact .error e
      | ok handoff => exact .ok ⟨rfl, shows.insert _ _⟩
  | load handoffId authority =>
    refine .packaged (.shared _ fun _ _ => ?_)
    exact .ok ⟨congrArg LedgerAnswer.loaded (shows _).symm, shows⟩
  | apply handoffId expectedRevision command appliedAtMs authority =>
    refine .packaged (.shared _ fun _ _ => .shared _ fun _ _ => ?_)
    rw [shows, handoffAggregates_key]
    refine .shared _ fun current _ => .shared _ fun recognized _ => ?_
    cases recognized with
    | true => exact .ok ⟨rfl, shows⟩
    | false =>
      refine .shared _ fun _ _ => ?_
      show Alike _ (current.handoff.apply command appliedAtMs authority >>= _ >>= _) _
      cases current.handoff.apply command appliedAtMs authority with
      | error e => exact .error e
      | ok result =>
        show Alike _ (nextRevision current.revision >>= _ >>= _) _
        cases nextRevision current.revision with
        | error e => exact .error e
        | ok revision => exact .ok ⟨rfl, shows.insert _ _⟩

/-! ## The SQLite coordinator -/

/-- A Handoff with the charge of its own encoding. -/
def HumanHandoff.charged (h : HumanHandoff) : HumanHandoff :=
  { h with materializationChargeBytes := h.toJson.encodedLen }

omit [Sha256] in
theorem HumanHandoff.charged_of_sized {h next : HumanHandoff}
    {capacityClass : HumanHandoffCapacityClass} {size : Nat}
    (sized : h.encodedSizeFor capacityClass = .ok size)
    (same : next = { h with materializationChargeBytes := size }) :
    next.charged = next ∧ next.toJson.encodedLen ≤ maxHandoffJsonBytes := by
  obtain ⟨⟨fits, _⟩, rfl⟩ := HumanHandoff.encodedSizeFor_eq_ok.1 sized
  have written : next.toJson = h.toJson := by
    rw [same]
    rfl
  rw [HumanHandoff.charged, written]
  refine ⟨?_, fits⟩
  rw [same]

/-- Commands leave the charge of the encoding, within the ceiling. -/
theorem HumanHandoff.Reachable.charged_fits {h : HumanHandoff} (reached : h.Reachable) :
    h.charged = h ∧ h.toJson.encodedLen ≤ maxHandoffJsonBytes := by
  induction reached with
  | new created =>
    iterate 3 replace created := rest_ok created
    obtain ⟨_, _, created⟩ := bind_eq_ok.1 created
    replace created := rest_ok created
    obtain ⟨size, sized, created⟩ := bind_eq_ok.1 created
    exact HumanHandoff.charged_of_sized sized (Except.ok.inj created).symm
  | @apply h next reached command appliedAtMs authority outcome accepted ih =>
    cases outcome with
    | duplicate =>
      rw [HumanHandoff.eq_of_duplicate accepted]
      exact ih
    | applied =>
      obtain ⟨kind, after, size, _, sized, same⟩ :=
        (HumanHandoff.apply_eq_applied reached.replays).1 accepted
      exact HumanHandoff.charged_of_sized sized same

theorem encodeHandoff_reachable {h : HumanHandoff} (reached : h.Reachable) :
    encodeHandoff h = .ok () := by
  refine seq_eq_ok.2 ⟨reached.valid, ?_⟩
  rw [rejectIf_decide, not_lt]
  exact reached.charged_fits.2

section Columns

omit [Sha256]

theorem priorityFromSql_toNat (priority : UInt8) :
    priorityFromSql priority.toNat = .ok priority := by
  have small : priority.toNat < 256 := priority.toNat_lt
  have bounds : (0 : Int) ≤ priority.toNat ∧ (priority.toNat : Int) < 256 := by omega
  rw [priorityFromSql, if_pos bounds, Int.toNat_natCast, UInt8.ofNat_toNat]

theorem statusName_size (status : HumanHandoffStatus) :
    (statusName status).utf8ByteSize ≤ maxHandoffStatusBytes := by
  cases status <;> simp only [statusName] <;> decide

theorem queue_size {queue : String}
    (valid : validateCapabilityName "Human Handoff queue" queue = .ok ()) :
    queue.utf8ByteSize ≤ maxHandoffQueueBytes := by
  rw [validateCapabilityName, rejectIf_eq_ok, Bool.not_eq_false', boundedText,
    Bool.and_eq_true, Bool.and_eq_true, decide_eq_true_eq] at valid
  exact valid.1.2

/-- The row of a snapshot. -/
def HumanHandoffSnapshot.row (snapshot : HumanHandoffSnapshot) : HumanHandoffRow :=
  ⟨humanHandoffSchemaVersion, snapshot.revision.toNat, snapshot.handoff.queue,
    snapshot.handoff.priority.toNat, snapshot.handoff.requestedAtMs.toNat,
    statusName snapshot.handoff.status, snapshot.handoff.toWire⟩

/-- A command rewrites three columns of a row. -/
theorem HumanHandoffSnapshot.row_update (snapshot : HumanHandoffSnapshot) {next : HumanHandoff}
    {id : HumanHandoffId} {tenantId : Option String} {revision : UInt64}
    (kept : next.request = snapshot.handoff.request) :
    { snapshot.row with
      revision := revision.toNat
      status := statusName next.status
      handoff := next.toWire } = HumanHandoffSnapshot.row ⟨id, tenantId, revision, next⟩ := by
  obtain ⟨_, queue, _, priority, requestedAtMs⟩ := HandoffRequest.mk.inj kept
  simp only [HumanHandoffSnapshot.row, queue, priority, requestedAtMs]

end Columns

namespace HumanHandoffSnapshot

variable {snapshot : HumanHandoffSnapshot} {key : StoreKey} {handoffId : HumanHandoffId}
  {tenantId : Option String}

theorem Sound.bounds (sound : snapshot.Sound key) :
    0 < snapshot.revision.toNat ∧ snapshot.revision.toNat < 2 ^ 63 := by
  have some_ := List.length_pos_iff.2 sound.reachable.replays.ne_nil
  have most : snapshot.handoff.transitions.length ≤ 4098 :=
    (HumanHandoff.validate_eq_ok.1 sound.reachable.valid).1
  have counts := sound.revision
  omega

theorem Sound.sqlRevision (sound : snapshot.Sound key) :
    Handoff.sqlRevision snapshot.revision = .ok (snapshot.revision.toNat : Int) :=
  i64TryFrom_eq_ok.2 ⟨sound.bounds.2, rfl⟩

theorem Sound.named (sound : snapshot.Sound (storageKey handoffId tenantId))
    (valid : validateTenant tenantId = .ok ()) :
    snapshot.id = handoffId ∧ snapshot.tenantId = tenantId := by
  have same := sound.key
  rw [storageKey, storageKey, StoreKey.mk.injEq] at same
  exact ⟨same.2, tenantStorageKey_injective sound.tenant valid same.1⟩

/-- **A row reads back** as the snapshot it was written from. -/
theorem Sound.read (sound : snapshot.Sound (storageKey handoffId tenantId))
    (valid : validateTenant tenantId = .ok ())
    (timely : snapshot.handoff.requestedAtMs.toNat < 2 ^ 63) :
    decodeSnapshot handoffId tenantId snapshot.row = .ok snapshot := by
  obtain ⟨positive, small⟩ := sound.bounds
  have reached := sound.reachable
  have counted : validateExpectedRevision snapshot.revision = .ok () := by
    rw [validateExpectedRevision, rejectIf_eq_ok, beq_eq_false_iff_ne]
    intro zero
    rw [zero] at positive
    exact absurd positive (by decide)
  have decoded : snapshot.handoff.toWire.deserialize = .ok snapshot.handoff := by
    refine mapError_eq_ok.2 (seq_eq_ok.2 ⟨reached.valid, ?_⟩)
    refine bind_eq_ok.2 ⟨snapshot.handoff.toJson.encodedLen, ?_, ?_⟩
    · exact HumanHandoff.encodedSizeFor_eq_ok.2 ⟨⟨reached.charged_fits.2, nofun⟩, rfl⟩
    · exact congrArg Except.ok reached.charged_fits.1
  have same := sound.named valid
  refine seq_eq_ok.2 ⟨rfl, bind_eq_ok.2 ⟨_, u64TryFrom_toNat small, seq_eq_ok.2 ⟨counted, ?_⟩⟩⟩
  refine bind_eq_ok.2 ⟨_, priorityFromSql_toNat _, bind_eq_ok.2 ⟨_, u64TryFrom_toNat timely, ?_⟩⟩
  refine bind_eq_ok.2 ⟨_, decoded, seq_eq_ok.2 ⟨reached.valid, seq_eq_ok.2 ⟨?_, ?_⟩⟩⟩
  · rw [rejectIf_eq_ok]
    simp [HumanHandoffSnapshot.row]
  · rw [← same.1, ← same.2]

end HumanHandoffSnapshot

namespace SqliteHumanHandoffCoordinator

/-- The table holds the rows of these snapshots, whose request times have room. -/
structure Shows (held : StoreKey → Option HumanHandoffSnapshot)
    (store : SqliteHumanHandoffCoordinator) : Prop where
  rows : ∀ key, store.handoffs[key]? = (held key).map HumanHandoffSnapshot.row
  timely : ∀ key snapshot, held key = some snapshot →
    snapshot.handoff.requestedAtMs.toNat < 2 ^ 63

variable {held : StoreKey → Option HumanHandoffSnapshot} {store : SqliteHumanHandoffCoordinator}

omit [Sha256] in
theorem Shows.insert (shows : Shows held store) (key : StoreKey) {snapshot : HumanHandoffSnapshot}
    (timely : snapshot.handoff.requestedAtMs.toNat < 2 ^ 63) :
    Shows (Function.update held key (some snapshot)) ⟨store.handoffs.insert key snapshot.row⟩ := by
  refine ⟨fun k => ?_, forall_update shows.timely timely⟩
  rw [congrFun (OrdMap.get?_insert store.handoffs key snapshot.row) k]
  by_cases written : k = key
  · subst written
    rw [Function.update_self, Function.update_self, Option.map_some]
  · rw [Function.update_of_ne written, Function.update_of_ne written, shows.rows]

theorem Shows.loadSnapshot (shows : Shows held store) {handoffId : HumanHandoffId}
    {tenantId : Option String} (sound : ∀ key snapshot, held key = some snapshot →
      snapshot.Sound key) (valid : validateTenant tenantId = .ok ()) :
    store.loadSnapshot handoffId tenantId = .ok (held (storageKey handoffId tenantId)) := by
  unfold SqliteHumanHandoffCoordinator.loadSnapshot
  rw [shows.rows]
  cases found : held (storageKey handoffId tenantId) with
  | none => rfl
  | some snapshot =>
    have stands := sound _ _ found
    obtain ⟨_, checked⟩ := seq_eq_ok.1 stands.reachable.valid
    obtain ⟨queue, _⟩ := seq_eq_ok.1 checked
    refine seq_eq_ok.2 ⟨rejectIf_fits (queue_size queue), ?_⟩
    refine seq_eq_ok.2 ⟨rejectIf_fits (statusName_size _), ?_⟩
    refine seq_eq_ok.2 ⟨rejectIf_fits stands.reachable.charged_fits.2, ?_⟩
    exact bind_eq_ok.2 ⟨snapshot, stands.read valid (shows.timely _ _ found), rfl⟩

end SqliteHumanHandoffCoordinator

/-- **The SQLite coordinator is the ledger**, with the room of its column. -/
theorem sqlite_implements :
    handoffAggregates.Implements sqlRoom SqliteHumanHandoffCoordinator.call
      SqliteHumanHandoffCoordinator.empty SqliteHumanHandoffCoordinator.Shows := by
  refine handoffLaws.implements ⟨fun key => OrdMap.get?_empty key, nofun⟩ ?_
  intro held store c sound shows
  cases c with
  | create handoffId request appliedAtMs authority =>
    refine .packaged (.shared _ fun _ access => ?_)
    refine .extra (shows.loadSnapshot sound (validateAccess_eq_ok access)) ?_
    rw [handoffAggregates_key]
    cases found : held (storageKey handoffId authority.tenantId) with
    | some existing =>
      refine .shared _ fun same _ => ?_
      cases same with
      | true => exact .ok ⟨rfl, shows⟩
      | false => exact .error _
    | none =>
      show Alike _ (HumanHandoff.new request appliedAtMs authority >>= _ >>= _) _
      cases created : HumanHandoff.new request appliedAtMs authority with
      | error e => exact .error e
      | ok handoff =>
        obtain ⟨_, _, requested⟩ := HumanHandoff.new_records created
        refine .extra rfl (.extra (encodeHandoff_reachable (.new created)) ?_)
        show Alike _ (sqlTime appliedAtMs >>= _ >>= _) _
        rw [requested]
        cases fits : sqlTime appliedAtMs with
        | error e => exact .error e
        | ok column =>
          obtain ⟨small, rfl⟩ := i64TryFrom_eq_ok.1 fits
          have positive : 0 < appliedAtMs.toNat := HumanHandoff.new_positive created
          refine .extra rfl (.extra (d := ()) ?_ (.extra (d := ()) ?_ ?_))
          · rw [rejectIf_decide]
            omega
          · rw [rejectIf_eq_ok, Std.ExtTreeMap.contains_eq_isSome_getElem?, shows.rows,
              found]
            rfl
          · rw [← requested] at small ⊢
            exact .ok ⟨rfl, shows.insert _ small⟩
  | load handoffId authority =>
    refine .packaged (.shared _ fun _ access => ?_)
    rw [shows.loadSnapshot sound (validateAccess_eq_ok access)]
    exact .ok ⟨rfl, shows⟩
  | apply handoffId expectedRevision command appliedAtMs authority =>
    refine .packaged (.shared _ fun _ access => .shared _ fun _ _ => ?_)
    refine .extra (shows.loadSnapshot sound (validateAccess_eq_ok access)) ?_
    rw [handoffAggregates_key]
    refine .shared _ fun current found => .shared _ fun recognized unseen => ?_
    cases recognized with
    | true => exact .ok ⟨rfl, shows⟩
    | false =>
      rw [orError_eq_ok] at found
      have stands := sound _ _ found
      refine .shared _ fun _ _ => ?_
      show Alike _ (current.handoff.apply command appliedAtMs authority >>= _ >>= _) _
      cases accepted : current.handoff.apply command appliedAtMs authority with
      | error e => exact .error e
      | ok result =>
        show Alike _ (nextRevision current.revision >>= _ >>= _) _
        cases counted : nextRevision current.revision with
        | error e => exact .error e
        | ok revision =>
          have advanced : handoffAggregates.advance handoffId current command appliedAtMs
              authority = .ok (⟨current.id, current.tenantId, revision, result.1⟩,
                result.2 == .duplicate) :=
            bind_eq_ok.2 ⟨result, accepted, bind_eq_ok.2 ⟨revision, counted, rfl⟩⟩
          have next := (handoffLaws.advance stands unseen advanced).2.1
          have kept := (HumanHandoff.apply_extends stands.reachable.replays unseen
            accepted).2.2.1
          refine .extra rfl (.extra rfl (.extra (encodeHandoff_reachable next.reachable) ?_))
          refine .extra next.sqlRevision (.extra stands.sqlRevision ?_)
          refine .extra (d := current.row) ?_ ?_
          · rw [orError_eq_ok, shows.rows, found, Option.map_some, Option.filter_some,
              if_pos]
            exact beq_self_eq_true _
          · have named := (stands.named (validateAccess_eq_ok access)).1
            have timely : result.1.requestedAtMs.toNat < 2 ^ 63 := by
              rw [show result.1.requestedAtMs = current.handoff.requestedAtMs from
                congrArg HandoffRequest.requestedAtMs kept]
              exact shows.timely _ _ found
            rw [current.row_update kept]
            exact .ok ⟨by rw [named], shows.insert _ timely⟩

/-! ## The two coordinators -/

/-- The column of request times has room for a Handoff that the call creates: one under
a free identity, of a request that is accepted. -/
def MemoryHumanHandoffCoordinator.HasRoom (store : MemoryHumanHandoffCoordinator)
    (c : HandoffCall) : Prop :=
  ∀ handoffId request appliedAtMs authority handoff,
    c = .create handoffId request appliedAtMs authority →
    validateAccess handoffId authority = .ok () →
    store.handoffs[storageKey handoffId authority.tenantId]? = none →
    HumanHandoff.new request appliedAtMs authority = .ok handoff → appliedAtMs.toNat < 2 ^ 63

/-- The store after calls. -/
def MemoryHumanHandoffCoordinator.after (calls : List HandoffCall) :
    MemoryHumanHandoffCoordinator :=
  (attempts call empty calls).2

theorem hasRoom_iff {held : StoreKey → Option HumanHandoffSnapshot}
    {store : MemoryHumanHandoffCoordinator} (shows : store.Shows held) {c : HandoffCall} :
    handoffAggregates.Roomy sqlRoom held c ↔ store.HasRoom c := by
  constructor
  · intro roomy handoffId request appliedAtMs authority handoff made access free created
    rw [shows] at free
    have room := roomy handoffId request appliedAtMs authority _ made access free
      (bind_eq_ok.2 ⟨handoff, created, rfl⟩)
    obtain ⟨column, fits, _⟩ := bind_eq_ok.1 room
    exact (i64TryFrom_eq_ok.1 fits).1
  · intro room handoffId request appliedAtMs authority snapshot made access free started
    obtain ⟨handoff, created, _⟩ := bind_eq_ok.1 started
    rw [handoffAggregates_key, ← shows] at free
    have small := room handoffId request appliedAtMs authority handoff made access free created
    exact bind_eq_ok.2 ⟨_, i64TryFrom_eq_ok.2 ⟨small, rfl⟩, rfl⟩

/-- There is room for every Handoff that a run creates. -/
def Timely (calls : List HandoffCall) : Prop :=
  ∀ before c later, calls = before ++ c :: later →
    (MemoryHumanHandoffCoordinator.after before).HasRoom c

theorem timely_iff (calls : List HandoffCall) :
    (∀ before c later, calls = before ++ c :: later →
      handoffAggregates.Roomy sqlRoom
        (handoffAggregates.heldAfter Aggregates.anyTime before) c) ↔ Timely calls := by
  refine forall_congr' fun before => forall_congr' fun c => forall_congr' fun later => ?_
  rw [hasRoom_iff (memory_implements.records before)]
  rfl

/-- **The two coordinators answer a run alike exactly when there is room for every
Handoff that it creates.** -/
theorem same_answers_iff (calls : List HandoffCall) :
    (attempts MemoryHumanHandoffCoordinator.call .empty calls).1 =
        (attempts SqliteHumanHandoffCoordinator.call .empty calls).1 ↔
      ∀ before c later, calls = before ++ c :: later →
        (MemoryHumanHandoffCoordinator.after before).HasRoom c := by
  rw [memory_implements.answers, sqlite_implements.answers, (Aggregates.answers_roomy ..).1]
  exact timely_iff calls

/-- The cases of such a run have times that the column holds. -/
theorem Timely.requestedAt {calls : List HandoffCall} (timely : Timely calls) {key : StoreKey}
    {snapshot : HumanHandoffSnapshot}
    (found : handoffAggregates.heldAfter Aggregates.anyTime calls key = some snapshot) :
    snapshot.handoff.requestedAtMs.toNat < 2 ^ 63 := by
  rw [(Aggregates.answers_roomy ..).2 ((timely_iff calls).2 timely)] at found
  exact (sqlite_implements.records calls).timely key snapshot found

end Paths

end YHarness.Handoff

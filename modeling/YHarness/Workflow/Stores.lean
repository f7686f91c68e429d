/-
# YHarness.Workflow.Stores -- the Workflow stores apply each command once

A store of Workflow Runs is a ledger of aggregates: a Run begins with its creation,
a command adds one transition, and one that is already recorded is recognized by its
identity and digest.  The laws of that ledger are facts about one Run
(`workflowLaws`).  The in-memory and the SQLite coordinator answer every run of calls
as the ledger does; a row of the database reads back as the snapshot it was written
from (`Sound.read`).
-/
import YHarness.Lib.CommandLedger
import YHarness.Workflow.Agreement

namespace YHarness.Workflow

open YHarness.Lib YHarness.Kernel

set_option autoImplicit false

variable {V : Type}

abbrev WorkflowCall (V : Type) :=
  LedgerCall WorkflowRunId AuthorityContext (WorkflowCreateRequest V) (WorkflowCommand V)

abbrev WorkflowAnswer (V : Type) :=
  LedgerAnswer (WorkflowRunSnapshot V)

theorem validateRunAccess_eq_ok {runId : WorkflowRunId} {authority : AuthorityContext}
    (access : validateRunAccess runId authority = .ok ()) :
    validateTenant authority.tenantId = .ok () :=
  (seq_eq_ok.1 (seq_eq_ok.1 access).1).2

section Paths

variable [SemVer V] [Sha256]

/-! ## The calls of a coordinator -/

def MemoryWorkflowCoordinator.call (store : MemoryWorkflowCoordinator V) :
    WorkflowCall V → Except HarnessError (WorkflowAnswer V × MemoryWorkflowCoordinator V) :=
  LedgerCall.on store.createAs store.loadAs store.applyAs
    (fun result => (result.snapshot, result.outcome == .duplicate)) store

def SqliteWorkflowCoordinator.call (store : SqliteWorkflowCoordinator V) :
    WorkflowCall V → Except HarnessError (WorkflowAnswer V × SqliteWorkflowCoordinator V) :=
  LedgerCall.on store.createAs store.loadAs store.applyAs
    (fun result => (result.snapshot, result.outcome == .duplicate)) store

/-- The operations of Workflow Runs. -/
def workflowAggregates :
    Aggregates WorkflowRunId AuthorityContext (WorkflowCreateRequest V) (WorkflowCommand V)
      StoreKey (WorkflowRunSnapshot V) (WorkflowTransition V) WorkflowCommandId HarnessError where
  key runId authority := storageKey runId authority.tenantId
  access := validateRunAccess
  start runId request appliedAtMs authority := do
    let run ← WorkflowRun.new request appliedAtMs authority
    .ok ⟨runId, authority.tenantId, 1, run⟩
  created snapshot request _ := snapshot.run.createMatches request
  differs runId := .workflow s!"Workflow Run {runId} already exists with different creation content"
  missing := missingRun
  checkExpected := validateExpectedRevision
  recognizes snapshot command _ := snapshot.run.recognizesCommand command
  revision := WorkflowRunSnapshot.revision
  conflict runId expected actual := .workflowConflict runId expected actual
  advance _ snapshot command appliedAtMs authority := do
    let (run, outcome) ← snapshot.run.apply command appliedAtMs authority
    let revision ← nextRevision snapshot.revision
    .ok (⟨snapshot.id, snapshot.tenantId, revision, run⟩, outcome == .duplicate)
  history snapshot := snapshot.run.transitions
  name := WorkflowTransition.commandId
  commandName := WorkflowCommand.id

@[simp] theorem workflowAggregates_key (runId : WorkflowRunId) (authority : AuthorityContext) :
    (workflowAggregates (V := V)).key runId authority = storageKey runId authority.tenantId := rfl

/-- A snapshot under its key. -/
structure WorkflowRunSnapshot.Sound (key : StoreKey) (snapshot : WorkflowRunSnapshot V) :
    Prop where
  key : storageKey snapshot.id snapshot.tenantId = key
  tenant : validateTenant snapshot.tenantId = .ok ()
  stored : snapshot.Stored

/-- A command is one of the transitions of a Run. -/
def WorkflowRun.Wrote (run : WorkflowRun V) (command : WorkflowCommand V) : Prop :=
  validateCommand command = .ok () ∧ ∃ t ∈ run.transitions,
    t.commandId = command.id ∧ t.commandSha256 = Sha256.digest (.json command.toJson)

/-- A request is the one that created a Run. -/
def WorkflowRun.BeganWith (run : WorkflowRun V) (request : WorkflowCreateRequest V) : Prop :=
  ∃ t, run.transitions.head? = some t ∧ t.commandId = request.commandId ∧
    t.kind = .created request.definition request.taskGraphId

/-- No other request has the digest of the one that created a Run. -/
def WorkflowRun.TellsApart (run : WorkflowRun V) (request : WorkflowCreateRequest V) : Prop :=
  ∀ original : WorkflowCreateRequest V, run.BeganWith original →
    Sha256.digest (.json original.toJson) = Sha256.digest (.json request.toJson) →
      original = request

/-! ## One Run -/

/-- No command is recorded twice. -/
theorem Replays.distinct {ts : List (WorkflowTransition V)} {p : WorkflowProjection V}
    (replays : Replays ts p) : (ts.map (·.commandId)).Nodup := by
  exact Lib.Replays.nodup _ Recorded.fresh replays

namespace WorkflowRun

variable {run : WorkflowRun V} {request : WorkflowCreateRequest V} {command : WorkflowCommand V}
  {p : WorkflowProjection V} {authority : AuthorityContext}

theorem validateCommand_digest (valid : validateCommand command = .ok ()) :
    commandDigest command.toJson = .ok (Sha256.digest (.json command.toJson)) := by
  obtain ⟨_, digested⟩ := seq_eq_ok.1 valid
  obtain ⟨digest, computed, _⟩ := bind_eq_ok.1 digested
  rw [computed, (commandDigest_eq_ok.1 computed).2]

/-- A command of the history is recognized. -/
theorem recognizes_of_wrote (distinct : (run.transitions.map (·.commandId)).Nodup)
    (wrote : run.Wrote command) :
    run.recognizesCommand command = .ok true := by
  obtain ⟨valid, t, member, named, digested⟩ := wrote
  refine seq_eq_ok.2 ⟨valid, bind_eq_ok.2 ⟨_, validateCommand_digest valid, ?_⟩⟩
  have found : run.transitions.find? (fun t => t.commandId == command.id) = some t :=
    (find?_key_eq_some distinct).2 ⟨member, named⟩
  rw [found]
  dsimp only
  rw [digested, if_pos (beq_self_eq_true _)]

theorem wrote_of_recognizes (recognized : run.recognizesCommand command = .ok true) :
    run.Wrote command := by
  obtain ⟨valid, recognized⟩ := seq_eq_ok.1 recognized
  obtain ⟨digest, computed, recognized⟩ := bind_eq_ok.1 recognized
  obtain ⟨_, rfl⟩ := commandDigest_eq_ok.1 computed
  cases found : run.transitions.find? fun t => t.commandId == command.id with
  | none =>
    rw [found] at recognized
    cases recognized
  | some existing =>
    rw [found] at recognized
    dsimp only at recognized
    split at recognized
    · rename_i same
      refine ⟨valid, existing, List.mem_of_find?_eq_some found, ?_, beq_iff_eq.1 same⟩
      have holds := List.find?_some found
      exact beq_iff_eq.1 holds
    · cases recognized

/-- A new command is recorded after everything else. -/
theorem apply_extends {run next : WorkflowRun V} {appliedAtMs : UInt64}
    {outcome : WorkflowApplyOutcome} (replays : Replays run.transitions run.projection)
    (unseen : run.recognizesCommand command = .ok false)
    (accepted : run.apply command appliedAtMs authority = .ok (next, outcome)) :
    outcome = .applied ∧ next.Wrote command ∧
      ∃ t, next.transitions = run.transitions ++ [t] ∧ t.commandId = command.id := by
  obtain ⟨rfl, _⟩ := length_apply replays unseen accepted
  obtain ⟨kind, p, size, admits, _, rfl⟩ := (apply_eq_applied replays).1 accepted
  have last : run.transitionFor command appliedAtMs authority.actor kind ∈
      run.transitions ++ [run.transitionFor command appliedAtMs authority.actor kind] :=
    List.mem_append_right _ List.mem_cons_self
  exact ⟨rfl, ⟨admits.wellFormed, _, last, rfl, rfl⟩, _, rfl, rfl⟩

theorem new_began {appliedAtMs : UInt64}
    (created : WorkflowRun.new request appliedAtMs authority = .ok run) :
    run.BeganWith request := by
  iterate 3 replace created := rest_ok created
  obtain ⟨_, _, created⟩ := bind_eq_ok.1 created
  replace created := rest_ok created
  obtain ⟨_, _, created⟩ := bind_eq_ok.1 created
  cases created
  exact ⟨_, rfl, rfl, rfl⟩

/-- The digest of the creation is the digest of its request. -/
theorem created_digest (replays : Replays run.transitions p) (began : run.BeganWith request) :
    ∃ t, run.transitions.head? = some t ∧ t.commandId = request.commandId ∧
      commandDigest request.toJson = .ok t.commandSha256 := by
  obtain ⟨t, first, named, kind⟩ := began
  obtain ⟨t', rest, _, parts, recorded, _, _⟩ := replays.creation
  rw [parts, List.head?_cons] at first
  cases first
  refine ⟨t, by rw [parts, List.head?_cons], named, ?_⟩
  have digested := recorded.digest
  rw [transitionDigest, named, kind] at digested
  exact digested

theorem createMatches_of_began (replays : Replays run.transitions p) (began : run.BeganWith request) :
    run.createMatches request = .ok true := by
  obtain ⟨t, first, named, digested⟩ := created_digest replays began
  refine bind_eq_ok.2 ⟨_, digested, ?_⟩
  rw [first, Option.any_some, named, beq_self_eq_true, beq_self_eq_true]
  rfl

/-- A request that matches is the one that created the Run, when it can be told apart. -/
theorem began_of_createMatches (replays : Replays run.transitions p)
    (apart : run.TellsApart request) (same : run.createMatches request = .ok true) :
    run.BeganWith request := by
  obtain ⟨digest, computed, same⟩ := bind_eq_ok.1 same
  obtain ⟨_, rfl⟩ := commandDigest_eq_ok.1 computed
  obtain ⟨t, rest, first, parts, recorded, creation, _⟩ := replays.creation
  have began : run.BeganWith ⟨t.commandId, first.definition, first.taskGraphId⟩ :=
    ⟨t, by rw [parts, List.head?_cons], rfl, creation.kind⟩
  rw [parts, List.head?_cons, Option.any_some] at same
  have both := Except.ok.inj same
  rw [Bool.and_eq_true, beq_iff_eq, beq_iff_eq] at both
  have digested := recorded.digest
  rw [transitionDigest, creation.kind] at digested
  have hashed := (commandDigest_eq_ok.1 digested).2
  rw [← apart _ began (hashed.symm.trans both.2)]
  exact began

end WorkflowRun

/-! ## The ledger -/

theorem workflowLaws :
    (workflowAggregates (V := V)).Laws WorkflowRunSnapshot.Sound
      (fun snapshot command _ => snapshot.run.Wrote command)
      (fun snapshot request _ => snapshot.run.BeganWith request)
      (fun _ _ => True)
      (fun snapshot request _ => snapshot.run.TellsApart request) where
  numbered sound := sound.stored.revision
  distinct sound := sound.stored.reachable.replays.distinct
  start := by
    intro runId request appliedAtMs authority snapshot access started
    obtain ⟨run, created, started⟩ := bind_eq_ok.1 started
    cases started
    exact ⟨⟨rfl, validateRunAccess_eq_ok access, .new created, (WorkflowRun.length_new created).symm⟩,
      WorkflowRun.new_began created, WorkflowRun.length_new created⟩
  advance := by
    intro runId snapshot command appliedAtMs authority next duplicate sound unseen advanced
    obtain ⟨⟨run, outcome⟩, accepted, advanced⟩ := bind_eq_ok.1 advanced
    obtain ⟨revision, counted, advanced⟩ := bind_eq_ok.1 advanced
    cases advanced
    have reached := sound.stored.reachable
    obtain ⟨rfl, wrote, t, longer, named⟩ :=
      WorkflowRun.apply_extends reached.replays unseen accepted
    refine ⟨rfl, ⟨sound.key, sound.tenant, .apply reached accepted, ?_⟩, wrote, t, longer, named⟩
    show revision.toNat = run.transitions.length
    rw [toNat_checkedNext counted, sound.stored.revision, longer, List.length_append,
      List.length_singleton]
  wroteLater := by
    rintro key snapshot next t command _ _ longer ⟨valid, u, member, wrote⟩
    refine ⟨valid, u, ?_, wrote⟩
    rw [show next.run.transitions = _ from longer]
    exact List.mem_append_left _ member
  beganLater := by
    rintro key snapshot next t request _ sound longer ⟨u, first, began⟩
    refine ⟨u, ?_, began⟩
    rw [show next.run.transitions = _ from longer, List.head?_append, show
      (workflowAggregates.history snapshot).head? = some u from first]
    rfl
  wroteOf := WorkflowRun.wrote_of_recognizes
  recognized := by
    intro runId snapshot command _ _ sound wrote _ _
    exact WorkflowRun.recognizes_of_wrote sound.stored.reachable.replays.distinct wrote
  recreated := by
    intro runId snapshot request _ _ sound began _ _
    exact WorkflowRun.createMatches_of_began sound.stored.reachable.replays began
  beganOf := by
    intro key snapshot request _ sound apart same
    exact WorkflowRun.began_of_createMatches sound.stored.reachable.replays apart same

/-! ## The in-memory coordinator -/

/-- The map of the coordinator holds these snapshots. -/
def MemoryWorkflowCoordinator.Shows (held : StoreKey → Option (WorkflowRunSnapshot V))
    (store : MemoryWorkflowCoordinator V) : Prop :=
  ∀ key, store.runs[key]? = held key

omit [SemVer V] [Sha256] in
theorem MemoryWorkflowCoordinator.Shows.insert
    {held : StoreKey → Option (WorkflowRunSnapshot V)} {store : MemoryWorkflowCoordinator V}
    (shows : Shows held store) (key : StoreKey) (snapshot : WorkflowRunSnapshot V) :
    Shows (Function.update held key (some snapshot)) ⟨store.runs.insert key snapshot⟩ := by
  intro k
  rw [← funext shows]
  exact congrFun (OrdMap.get?_insert store.runs key snapshot) k

namespace MemoryWorkflowCoordinator

variable {held : StoreKey → Option (WorkflowRunSnapshot V)} {store : MemoryWorkflowCoordinator V}
  {runId : WorkflowRunId} {authority : AuthorityContext} {appliedAtMs : UInt64}

theorem Shows.createAs (shows : Shows held store) (request : WorkflowCreateRequest V) :
    Alike (fun left right => left.1 = .created right.1 ∧ Shows left.2 right.2)
      (workflowAggregates.call Aggregates.anyTime held
        (.create runId request appliedAtMs authority))
      (store.createAs runId request appliedAtMs authority) := by
  refine .shared _ fun _ _ => ?_
  rw [shows, workflowAggregates_key]
  cases held (storageKey runId authority.tenantId) with
  | some existing =>
    refine .shared _ fun same _ => ?_
    cases same with
    | true => exact .ok ⟨rfl, shows⟩
    | false => exact .error _
  | none =>
    show Alike _ (WorkflowRun.new request appliedAtMs authority >>= _ >>= _) _
    cases WorkflowRun.new request appliedAtMs authority with
    | error e => exact .error e
    | ok run => exact .ok ⟨rfl, shows.insert _ _⟩

theorem Shows.loadAs (shows : Shows held store) :
    Alike (fun left right => left.1 = .loaded right ∧ left.2 = held)
      (workflowAggregates.call Aggregates.anyTime held (.load runId authority))
      (store.loadAs runId authority) := by
  refine .shared _ fun _ _ => ?_
  exact .ok ⟨congrArg LedgerAnswer.loaded (shows _).symm, rfl⟩

theorem Shows.applyAs (shows : Shows held store) (expectedRevision : UInt64)
    (command : WorkflowCommand V) :
    Alike (fun left right =>
        left.1 = .applied right.1.snapshot (right.1.outcome == .duplicate) ∧ Shows left.2 right.2)
      (workflowAggregates.call Aggregates.anyTime held
        (.apply runId expectedRevision command appliedAtMs authority))
      (store.applyAs runId expectedRevision command appliedAtMs authority) := by
  refine .shared _ fun _ _ => .shared _ fun _ _ => ?_
  rw [shows, workflowAggregates_key]
  cases held (storageKey runId authority.tenantId) with
  | none => exact .error _
  | some current =>
    rw [orError, ok_bind]
    refine .shared _ fun recognized _ => ?_
    cases recognized with
    | true => exact .ok ⟨rfl, shows⟩
    | false =>
      refine .shared _ fun _ _ => ?_
      show Alike _ (current.run.apply command appliedAtMs authority >>= _ >>= _) _
      cases current.run.apply command appliedAtMs authority with
      | error e => exact .error e
      | ok result =>
        show Alike _ (nextRevision current.revision >>= _ >>= _) _
        cases nextRevision current.revision with
        | error e => exact .error e
        | ok revision => exact .ok ⟨rfl, shows.insert _ _⟩

end MemoryWorkflowCoordinator

/-- **The in-memory coordinator is the ledger.** -/
theorem memory_implements :
    workflowAggregates.Implements Aggregates.anyTime MemoryWorkflowCoordinator.call
      (MemoryWorkflowCoordinator.empty : MemoryWorkflowCoordinator V)
      MemoryWorkflowCoordinator.Shows := by
  refine workflowLaws.implements (fun key => OrdMap.get?_empty key) ?_
  intro held store c _ shows
  cases c with
  | create runId request appliedAtMs authority => exact .packaged (shows.createAs request)
  | load runId authority =>
    refine .packaged (shows.loadAs.mono ?_)
    rintro left right ⟨answer, rfl⟩
    exact ⟨answer, shows⟩
  | apply runId expectedRevision command appliedAtMs authority =>
    exact .packaged (shows.applyAs expectedRevision command)

/-! ## The SQLite coordinator -/

omit [Sha256] in
theorem WorkflowRun.charged_of_sized {run next : WorkflowRun V}
    {capacityClass : WorkflowCapacityClass} {size : Nat}
    (sized : run.encodedSizeFor capacityClass = .ok size)
    (same : next = { run with materializationChargeBytes := size }) :
    next.charged = next ∧ next.toJson.encodedLen ≤ maxWorkflowJsonBytes := by
  obtain ⟨⟨fits, _⟩, rfl⟩ := WorkflowRun.encodedSizeFor_eq_ok.1 sized
  have written : next.toJson = run.toJson := by
    rw [same]
    rfl
  rw [WorkflowRun.charged, written]
  refine ⟨?_, fits⟩
  rw [same]

/-- Commands leave the charge of the encoding, within the ceiling. -/
theorem WorkflowRun.Reachable.charged_fits {run : WorkflowRun V} (reached : run.Reachable) :
    run.charged = run ∧ run.toJson.encodedLen ≤ maxWorkflowJsonBytes := by
  induction reached with
  | new created =>
    iterate 3 replace created := rest_ok created
    obtain ⟨_, _, created⟩ := bind_eq_ok.1 created
    replace created := rest_ok created
    obtain ⟨size, sized, created⟩ := bind_eq_ok.1 created
    exact WorkflowRun.charged_of_sized sized (Except.ok.inj created).symm
  | @apply run next reached command appliedAtMs authority outcome accepted ih =>
    cases outcome with
    | duplicate =>
      rw [WorkflowRun.eq_of_duplicate accepted]
      exact ih
    | applied =>
      obtain ⟨kind, p, size, _, sized, same⟩ :=
        (WorkflowRun.apply_eq_applied reached.replays).1 accepted
      exact WorkflowRun.charged_of_sized sized same

/-- The row of a snapshot. -/
def WorkflowRunSnapshot.row (snapshot : WorkflowRunSnapshot V) : WorkflowRow V :=
  ⟨workflowRunSchemaVersion, snapshot.revision.toNat, snapshot.run.toWire⟩

theorem encodeRun_reachable {run : WorkflowRun V} (reached : run.Reachable) :
    encodeRun run = .ok () := by
  refine seq_eq_ok.2 ⟨reached.valid, ?_⟩
  rw [rejectIf_decide, not_lt]
  exact reached.charged_fits.2

namespace WorkflowRunSnapshot

variable {snapshot : WorkflowRunSnapshot V}

theorem Stored.bounds (stored : snapshot.Stored) :
    0 < snapshot.revision.toNat ∧ snapshot.revision.toNat < 2 ^ 63 := by
  have some_ := List.length_pos_iff.2 stored.reachable.replays.ne_nil
  have most : snapshot.run.transitions.length ≤ 4098 :=
    (WorkflowRun.validate_eq_ok.1 stored.reachable.valid).1
  have counts := stored.revision
  omega

theorem Stored.sqlRevision (stored : snapshot.Stored) :
    Workflow.sqlRevision snapshot.revision = .ok (snapshot.revision.toNat : Int) :=
  i64TryFrom_eq_ok.2 ⟨stored.bounds.2, rfl⟩

variable {tenantId : Option String}

theorem Sound.named {runId : WorkflowRunId} (sound : snapshot.Sound (storageKey runId tenantId))
    (valid : validateTenant tenantId = .ok ()) :
    snapshot.id = runId ∧ snapshot.tenantId = tenantId := by
  have key := sound.key
  rw [storageKey, storageKey, StoreKey.mk.injEq] at key
  exact ⟨key.2, tenantStorageKey_injective sound.tenant valid key.1⟩

/-- **A row reads back** as the snapshot it was written from. -/
theorem Sound.read {runId : WorkflowRunId} (sound : snapshot.Sound (storageKey runId tenantId))
    (valid : validateTenant tenantId = .ok ()) :
    decodeSnapshot runId tenantId snapshot.row = .ok snapshot := by
  obtain ⟨positive, small⟩ := sound.stored.bounds
  have reached := sound.stored.reachable
  have revision : revisionFromSql (snapshot.revision.toNat : Int) = .ok snapshot.revision :=
    u64TryFrom_toNat small
  have counted : validateExpectedRevision snapshot.revision = .ok () := by
    rw [validateExpectedRevision, rejectIf_eq_ok, beq_eq_false_iff_ne]
    intro zero
    rw [zero] at positive
    exact absurd positive (by decide)
  have decoded : snapshot.run.toWire.deserialize = .ok snapshot.run := by
    refine mapError_eq_ok.2 (seq_eq_ok.2 ⟨reached.valid, ?_⟩)
    refine bind_eq_ok.2 ⟨snapshot.run.toJson.encodedLen, ?_, ?_⟩
    · exact WorkflowRun.encodedSizeFor_eq_ok.2 ⟨⟨reached.charged_fits.2, nofun⟩, rfl⟩
    · exact congrArg Except.ok reached.charged_fits.1
  have same := sound.named valid
  refine seq_eq_ok.2 ⟨rfl, bind_eq_ok.2 ⟨_, revision, seq_eq_ok.2 ⟨counted, ?_⟩⟩⟩
  refine bind_eq_ok.2 ⟨_, decoded, seq_eq_ok.2 ⟨reached.valid, ?_⟩⟩
  rw [← same.1, ← same.2]

end WorkflowRunSnapshot

namespace SqliteWorkflowCoordinator

/-- The table holds the rows of these snapshots. -/
def Shows (held : StoreKey → Option (WorkflowRunSnapshot V)) (store : SqliteWorkflowCoordinator V) :
    Prop :=
  ∀ key, store.runs[key]? = (held key).map WorkflowRunSnapshot.row

variable {held : StoreKey → Option (WorkflowRunSnapshot V)} {store : SqliteWorkflowCoordinator V}

omit [SemVer V] [Sha256] in
theorem Shows.insert (shows : Shows held store) (key : StoreKey)
    (snapshot : WorkflowRunSnapshot V) :
    Shows (Function.update held key (some snapshot)) ⟨store.runs.insert key snapshot.row⟩ := by
  intro k
  rw [congrFun (OrdMap.get?_insert store.runs key snapshot.row) k]
  by_cases written : k = key
  · subst written
    rw [Function.update_self, Function.update_self, Option.map_some]
  · rw [Function.update_of_ne written, Function.update_of_ne written, shows]

theorem Shows.loadSnapshot (shows : Shows held store) {runId : WorkflowRunId}
    {tenantId : Option String} (sound : ∀ key snapshot, held key = some snapshot →
      snapshot.Sound key) (valid : validateTenant tenantId = .ok ()) :
    store.loadSnapshot runId tenantId = .ok (held (storageKey runId tenantId)) := by
  unfold SqliteWorkflowCoordinator.loadSnapshot
  rw [shows]
  cases found : held (storageKey runId tenantId) with
  | none => rfl
  | some snapshot =>
    have stands := sound _ _ found
    refine seq_eq_ok.2 ⟨?_, bind_eq_ok.2 ⟨snapshot, stands.read valid, rfl⟩⟩
    rw [rejectIf_decide, not_lt]
    exact stands.stored.reachable.charged_fits.2

variable {runId : WorkflowRunId} {authority : AuthorityContext} {appliedAtMs : UInt64}

theorem Shows.createAs (shows : Shows held store) (sound : ∀ key snapshot,
      held key = some snapshot → snapshot.Sound key) (request : WorkflowCreateRequest V) :
    Alike (fun left right => left.1 = .created right.1 ∧ Shows left.2 right.2)
      (workflowAggregates.call Aggregates.anyTime held
        (.create runId request appliedAtMs authority))
      (store.createAs runId request appliedAtMs authority) := by
  refine .shared _ fun _ access => ?_
  refine .extra (shows.loadSnapshot sound (validateRunAccess_eq_ok access)) ?_
  rw [workflowAggregates_key]
  cases found : held (storageKey runId authority.tenantId) with
  | some existing =>
    refine .shared _ fun same _ => ?_
    cases same with
    | true => exact .ok ⟨rfl, shows⟩
    | false => exact .error _
  | none =>
    show Alike _ (WorkflowRun.new request appliedAtMs authority >>= _ >>= _) _
    cases created : WorkflowRun.new request appliedAtMs authority with
    | error e => exact .error e
    | ok run =>
      refine .extra rfl (.extra (encodeRun_reachable (.new created)) (.extra (d := ()) ?_ ?_))
      · rw [rejectIf_eq_ok, Std.ExtTreeMap.contains_eq_isSome_getElem?, shows, found]
        rfl
      · exact .ok ⟨rfl, shows.insert _ _⟩

theorem Shows.loadAs (shows : Shows held store) (sound : ∀ key snapshot,
      held key = some snapshot → snapshot.Sound key) :
    Alike (fun left right => left.1 = .loaded right ∧ left.2 = held)
      (workflowAggregates.call Aggregates.anyTime held (.load runId authority))
      (store.loadAs runId authority) := by
  refine .shared _ fun _ access => ?_
  rw [shows.loadSnapshot sound (validateRunAccess_eq_ok access)]
  exact .ok ⟨rfl, rfl⟩

theorem Shows.applyAs (shows : Shows held store) (sound : ∀ key snapshot,
      held key = some snapshot → snapshot.Sound key) (expectedRevision : UInt64)
    (command : WorkflowCommand V) :
    Alike (fun left right =>
        left.1 = .applied right.1.snapshot (right.1.outcome == .duplicate) ∧ Shows left.2 right.2)
      (workflowAggregates.call Aggregates.anyTime held
        (.apply runId expectedRevision command appliedAtMs authority))
      (store.applyAs runId expectedRevision command appliedAtMs authority) := by
  refine .shared _ fun _ access => .shared _ fun _ _ => ?_
  refine .extra (shows.loadSnapshot sound (validateRunAccess_eq_ok access)) ?_
  rw [workflowAggregates_key]
  refine .shared _ fun current found => .shared _ fun recognized unseen => ?_
  cases recognized with
  | true => exact .ok ⟨rfl, shows⟩
  | false =>
    rw [orError_eq_ok] at found
    have stands := sound _ _ found
    refine .shared _ fun _ _ => ?_
    show Alike _ (current.run.apply command appliedAtMs authority >>= _ >>= _) _
    cases accepted : current.run.apply command appliedAtMs authority with
    | error e => exact .error e
    | ok result =>
      show Alike _ (nextRevision current.revision >>= _ >>= _) _
      cases counted : nextRevision current.revision with
      | error e => exact .error e
      | ok revision =>
        have advanced : workflowAggregates.advance runId current command appliedAtMs
            authority = .ok (⟨current.id, current.tenantId, revision, result.1⟩,
              result.2 == .duplicate) :=
          bind_eq_ok.2 ⟨result, accepted, bind_eq_ok.2 ⟨revision, counted, rfl⟩⟩
        have next := (workflowLaws.advance stands unseen advanced).2.1
        refine .extra rfl (.extra rfl (.extra (encodeRun_reachable next.stored.reachable) ?_))
        refine .extra next.stored.sqlRevision (.extra stands.stored.sqlRevision ?_)
        refine .extra (d := current.row) ?_ ?_
        · rw [orError_eq_ok, shows, found, Option.map_some, Option.filter_some, if_pos]
          exact beq_self_eq_true _
        · have named := (stands.named (validateRunAccess_eq_ok access)).1
          refine .ok ⟨?_, shows.insert _ _⟩
          rw [named]

end SqliteWorkflowCoordinator

/-- **The SQLite coordinator is the ledger.** -/
theorem sqlite_implements :
    workflowAggregates.Implements Aggregates.anyTime SqliteWorkflowCoordinator.call
      (SqliteWorkflowCoordinator.empty : SqliteWorkflowCoordinator V)
      SqliteWorkflowCoordinator.Shows := by
  refine workflowLaws.implements (fun key => OrdMap.get?_empty key) ?_
  intro held store c sound shows
  cases c with
  | create runId request appliedAtMs authority => exact .packaged (shows.createAs sound request)
  | load runId authority =>
    refine .packaged ((shows.loadAs sound).mono ?_)
    rintro left right ⟨answer, rfl⟩
    exact ⟨answer, shows⟩
  | apply runId expectedRevision command appliedAtMs authority =>
    exact .packaged (shows.applyAs sound expectedRevision command)

end Paths

end YHarness.Workflow

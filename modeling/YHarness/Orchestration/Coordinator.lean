/-
# YHarness.Orchestration.Coordinator -- the stores of Task Graphs

The in-memory and the SQLite Task Coordinator of `src/orchestration/coordinator.rs`.
A call holds the lock of the map, or is one statement or transaction, so it is one
step on the store; a call that fails leaves the store as it was.  A row of the table
holds the tenant and the graph that its JSON text encodes.

`Holds` says which snapshots a store holds.  Each call is specified by it once
(`createAs_holds`, `loadAs_holds`, `compareAndSwapAs_holds`), for both stores.
-/
import YHarness.Lib.Revisions
import YHarness.Kernel.Storage
import YHarness.Orchestration.Integrity

namespace YHarness.Orchestration

open YHarness.Lib YHarness.Kernel

set_option autoImplicit false

structure TaskGraphSnapshot where
  id : TaskGraphId
  tenantId : Option String
  revision : UInt64
  graph : TaskGraph

/-- The key a snapshot is stored under. -/
def TaskGraphSnapshot.key (snapshot : TaskGraphSnapshot) : StoreKey :=
  storageKey snapshot.id snapshot.tenantId

def taskGraphSchemaVersion : Int := 4

/-! ## Encodings -/

def TaskRecord.toJson (record : TaskRecord) : Json :=
  .obj [("definition", record.definition.toJson), ("status", record.status.toJson),
    ("attempts", jsonU32 record.attempts)]

namespace TaskGraph

def toJson (g : TaskGraph) : Json :=
  .obj ([("tasks", .obj (g.tasks.toList.map fun entry => (entry.1, entry.2.toJson))),
    ("messages", .arr (g.messages.map TaskMessage.toJson))] ++
    (if g.attemptBindings.isEmpty then []
      else [("attempt_bindings", .arr (g.attemptBindings.map TaskAttemptBinding.toJson))]) ++
    [("next_message_sequence", jsonU64 g.nextMessageSequence)])

/-- The encoding of `StoredTaskGraphRef`. -/
def storedJson (g : TaskGraph) (tenantId : Option String) : Json :=
  .obj (skipNone "tenant_id" .str tenantId ++ [("graph", g.toJson)])

def validateExecutionBindingTenant (g : TaskGraph) (tenantId : Option String) :
    Except HarnessError Unit :=
  match g.attemptBindings.find? fun evidence => evidence.executionBinding.tenantId != tenantId with
  | some evidence => .error (.orchestration (s!"Task {evidence.taskId} attempt " ++
      s!"{evidence.attempt.toNat} execution binding tenant does not match the Task Graph owner"))
  | none => .ok ()

end TaskGraph

/-! ## Checks -/

def validateGraphId (graphId : TaskGraphId) : Except HarnessError Unit :=
  rejectIf (graphId.isEmpty || decide (256 < graphId.utf8ByteSize) || hasControl graphId)
    (.orchestration "Task Graph identity must be 1-256 non-control bytes")

def validateGraphSize (encoded : Json) : Except HarnessError Unit :=
  rejectIf (decide (maxTaskGraphJsonBytes < encoded.encodedLen))
    (.orchestration s!"Task Graph snapshot exceeds {maxTaskGraphJsonBytes} bytes")

def validateGraph (g : TaskGraph) (tenantId : Option String) : Except HarnessError Unit := do
  g.validateIntegrity
  g.validateExecutionBindingTenant tenantId
  validateGraphSize g.toJson

/-- The checks of `encode_graph`. -/
def encodeGraph (g : TaskGraph) (tenantId : Option String) : Except HarnessError Unit := do
  g.validateIntegrity
  g.validateExecutionBindingTenant tenantId
  validateGraphSize (g.storedJson tenantId)

def graphDoesNotExist (graphId : TaskGraphId) : HarnessError :=
  .orchestration s!"Task Graph {graphId} does not exist"

def graphExists (graphId : TaskGraphId) : HarnessError :=
  .orchestration s!"Task Graph {graphId} already exists"

def nextRevision (revision : UInt64) : Except HarnessError UInt64 :=
  checkedNext (.orchestration "Task Graph revision overflow") revision

def validateSchemaVersion (schemaVersion : Int) : Except HarnessError Unit :=
  rejectIf (schemaVersion != taskGraphSchemaVersion)
    (.orchestration s!"unsupported Task Graph schema version {schemaVersion}")

def sqlRevision (revision : UInt64) : Except HarnessError Int :=
  i64TryFrom (.orchestration "Task Graph revision exceeds SQLite") revision

def revisionFromSql (revision : Int) : Except HarnessError UInt64 :=
  u64TryFrom (.orchestration "stored Task Graph revision is invalid") revision

/-! ## The two stores -/

structure TaskGraphRow where
  schemaVersion : Int
  revision : Int
  tenantId : Option String
  graph : TaskGraph.Wire

namespace TaskGraphRow

/-- `bounded_text` of the text columns: SQLite reports an error for longer ones. -/
def boundedColumns (key : StoreKey) (row : TaskGraphRow) : Except HarnessError Unit := do
  rejectIf (decide (256 < key.tenant.utf8ByteSize))
    (.orchestration "stored Task tenant exceeds 256 bytes")
  rejectIf (decide (maxTaskGraphJsonBytes < (TaskGraph.storedJson
      ⟨row.graph.tasks, row.graph.messages, row.graph.attemptBindings,
        row.graph.nextMessageSequence, 0⟩ row.tenantId).encodedLen))
    (.orchestration s!"stored Task Graph snapshot exceeds {maxTaskGraphJsonBytes} bytes")

/-- `decode_snapshot`. -/
def decode (key : StoreKey) (row : TaskGraphRow) : Except HarnessError TaskGraphSnapshot := do
  validateSchemaVersion row.schemaVersion
  let graph ← TaskGraph.deserialize row.graph
  let tenantId ← tenantFromStorageKey key.tenant
  rejectIf (row.tenantId != tenantId)
    (.orchestration "stored Task Graph tenant projection does not match its body")
  graph.validateIntegrity
  graph.validateExecutionBindingTenant tenantId
  let revision ← revisionFromSql row.revision
  .ok ⟨key.id, tenantId, revision, graph⟩

/-- The row of a snapshot. -/
def ofSnapshot (snapshot : TaskGraphSnapshot) : TaskGraphRow :=
  ⟨taskGraphSchemaVersion, snapshot.revision.toNat, snapshot.tenantId, snapshot.graph.toWire⟩

end TaskGraphRow

/-- A coordinator: the map of the process, or the table of a database. -/
inductive TaskCoordinator where
  | memory (graphs : OrdMap StoreKey TaskGraphSnapshot)
  | sqlite (taskGraphs : OrdMap StoreKey TaskGraphRow)

namespace TaskCoordinator

/-- The snapshot and the store after a creation. -/
def createAs (store : TaskCoordinator) (graphId : TaskGraphId) (graph : TaskGraph)
    (authority : AuthorityContext) :
    Except HarnessError (TaskGraphSnapshot × TaskCoordinator) := do
  authority.validateCurrent "Task Coordinator authority"
  validateGraphId graphId
  let key := storageKey graphId authority.tenantId
  let snapshot : TaskGraphSnapshot := ⟨graphId, authority.tenantId, 1, graph⟩
  match store with
  | memory graphs => do
    validateGraph graph authority.tenantId
    rejectIf (graphs.contains key) (graphExists graphId)
    .ok (snapshot, memory (graphs.insert key snapshot))
  | sqlite taskGraphs => do
    encodeGraph graph authority.tenantId
    -- `INSERT OR IGNORE` changes no row when the key is taken
    rejectIf (taskGraphs.contains key) (graphExists graphId)
    .ok (snapshot, sqlite (taskGraphs.insert key
      ⟨taskGraphSchemaVersion, 1, authority.tenantId, graph.toWire⟩))

def loadAs (store : TaskCoordinator) (graphId : TaskGraphId) (authority : AuthorityContext) :
    Except HarnessError (Option TaskGraphSnapshot) := do
  authority.validateCurrent "Task Coordinator authority"
  validateGraphId graphId
  let key := storageKey graphId authority.tenantId
  match store with
  | memory graphs => .ok graphs[key]?
  | sqlite taskGraphs =>
    match taskGraphs[key]? with
    | none => .ok none
    | some row => do
      row.boundedColumns key
      let snapshot ← row.decode key
      .ok (some snapshot)

/-- The saved snapshot and the store after a compare-and-swap. -/
def compareAndSwapAs (store : TaskCoordinator) (snapshot : TaskGraphSnapshot)
    (authority : AuthorityContext) :
    Except HarnessError (TaskGraphSnapshot × TaskCoordinator) := do
  authority.validateCurrent "Task Coordinator authority"
  validateGraphId snapshot.id
  match store with
  | memory graphs => do
    validateGraph snapshot.graph authority.tenantId
    rejectIf (snapshot.tenantId != authority.tenantId) (graphDoesNotExist snapshot.id)
    let key := storageKey snapshot.id authority.tenantId
    let current ← orError (graphDoesNotExist snapshot.id) graphs[key]?
    rejectIf (current.revision != snapshot.revision)
      (.orchestrationConflict snapshot.id snapshot.revision current.revision)
    let revision ← nextRevision snapshot.revision
    let saved := { snapshot with revision }
    .ok (saved, memory (graphs.insert key saved))
  | sqlite taskGraphs => do
    rejectIf (snapshot.tenantId != authority.tenantId) (graphDoesNotExist snapshot.id)
    encodeGraph snapshot.graph snapshot.tenantId
    let revision ← nextRevision snapshot.revision
    let expectedSql ← sqlRevision snapshot.revision
    let nextSql ← sqlRevision revision
    let key := storageKey snapshot.id snapshot.tenantId
    let row ← orError (graphDoesNotExist snapshot.id) taskGraphs[key]?
    validateSchemaVersion row.schemaVersion
    let actual ← revisionFromSql row.revision
    rejectIf (actual != snapshot.revision)
      (.orchestrationConflict snapshot.id snapshot.revision actual)
    -- the `UPDATE` names the expected revision again
    rejectIf (row.revision != expectedSql)
      (.orchestration "Task Graph CAS changed an unexpected row count")
    .ok ({ snapshot with revision }, sqlite (taskGraphs.insert key { row with
      revision := nextSql, tenantId := snapshot.tenantId, graph := snapshot.graph.toWire }))

end TaskCoordinator

/-! ## What a store holds -/

/-- A snapshot that may be stored under a key. -/
structure TaskGraphSnapshot.Sound (snapshot : TaskGraphSnapshot) (key : StoreKey) : Prop where
  key : snapshot.key = key
  tenant : validateTenant snapshot.tenantId = .ok ()
  integrity : snapshot.graph.validateIntegrity = .ok ()
  binding : snapshot.graph.validateExecutionBindingTenant snapshot.tenantId = .ok ()

namespace TaskCoordinator

/-- The store holds exactly these snapshots. -/
def Holds (store : TaskCoordinator) (held : StoreKey → Option TaskGraphSnapshot) : Prop :=
  (∀ key snapshot, held key = some snapshot → snapshot.Sound key) ∧
    match store with
    | memory graphs => ∀ key : StoreKey, graphs[key]? = held key
    | sqlite taskGraphs =>
      (∀ key : StoreKey, taskGraphs[key]? = (held key).map TaskGraphRow.ofSnapshot) ∧
        ∀ key snapshot, held key = some snapshot → snapshot.revision.toNat < 2 ^ 63 ∧
          (snapshot.graph.storedJson snapshot.tenantId).encodedLen ≤ maxTaskGraphJsonBytes

theorem memory_empty_holds : (memory ∅).Holds fun _ => none :=
  ⟨nofun, fun key => OrdMap.get?_empty key⟩

theorem sqlite_empty_holds : (sqlite ∅).Holds fun _ => none :=
  ⟨nofun, fun key => OrdMap.get?_empty key, nofun⟩

variable {held : StoreKey → Option TaskGraphSnapshot} {snapshot : TaskGraphSnapshot}
  {authority : AuthorityContext} {graphId : TaskGraphId} {key : StoreKey}
  {store next : TaskCoordinator}

/-- A snapshot written under its key is held, and the others still are. -/
theorem Holds.memory_insert {graphs : OrdMap StoreKey TaskGraphSnapshot}
    (holds : (memory graphs).Holds held) (sound : snapshot.Sound key) :
    (memory (graphs.insert key snapshot)).Holds (Function.update held key (some snapshot)) := by
  obtain ⟨sounds, stored⟩ := holds
  refine ⟨forall_update sounds sound, fun k => ?_⟩
  rw [← show (fun k : StoreKey => graphs[k]?) = held from funext stored,
    ← OrdMap.get?_insert graphs key snapshot]

theorem Holds.sqlite_insert {taskGraphs : OrdMap StoreKey TaskGraphRow}
    (holds : (sqlite taskGraphs).Holds held) (sound : snapshot.Sound key)
    (counted : snapshot.revision.toNat < 2 ^ 63)
    (sized : (snapshot.graph.storedJson snapshot.tenantId).encodedLen ≤ maxTaskGraphJsonBytes) :
    (sqlite (taskGraphs.insert key (.ofSnapshot snapshot))).Holds
      (Function.update held key (some snapshot)) := by
  obtain ⟨sounds, stored, columns⟩ := holds
  refine ⟨forall_update sounds sound, fun k => ?_,
    forall_update columns ⟨counted, sized⟩⟩
  by_cases same : key = k
  · subst same
    rw [OrdMap.get?_insert_self, Function.update_self, Option.map_some]
  · rw [OrdMap.get?_insert_of_ne _ _ same, Function.update_of_ne (Ne.symm same)]
    exact stored k

/-! ## What the calls do -/

/-- **A creation** puts the graph under a free key, at revision one. -/
theorem createAs_holds (holds : store.Holds held) {graph : TaskGraph}
    (created : store.createAs graphId graph authority = .ok (snapshot, next)) :
    snapshot = ⟨graphId, authority.tenantId, 1, graph⟩ ∧ held snapshot.key = none ∧
      next.Holds (Function.update held snapshot.key (some snapshot)) := by
  obtain ⟨current, created⟩ := seq_eq_ok.1 created
  replace created := rest_ok created
  have tenant := (seq_eq_ok.1 current).2
  cases store with
  | memory graphs =>
    obtain ⟨valid, created⟩ := seq_eq_ok.1 created
    obtain ⟨free, created⟩ := seq_eq_ok.1 created
    cases created
    obtain ⟨integrity, valid⟩ := seq_eq_ok.1 valid
    obtain ⟨binding, _⟩ := seq_eq_ok.1 valid
    rw [rejectIf_eq_ok, Std.ExtTreeMap.contains_eq_isSome_getElem?, Option.isSome_eq_false_iff,
      Option.isNone_iff_eq_none] at free
    exact ⟨rfl, (holds.2 _).symm.trans free,
      holds.memory_insert ⟨rfl, tenant, integrity, binding⟩⟩
  | sqlite taskGraphs =>
    obtain ⟨valid, created⟩ := seq_eq_ok.1 created
    obtain ⟨free, created⟩ := seq_eq_ok.1 created
    cases created
    obtain ⟨integrity, valid⟩ := seq_eq_ok.1 valid
    obtain ⟨binding, sized⟩ := seq_eq_ok.1 valid
    rw [rejectIf_eq_ok, Std.ExtTreeMap.contains_eq_isSome_getElem?, Option.isSome_eq_false_iff,
      Option.isNone_iff_eq_none] at free
    rw [validateGraphSize, rejectIf_decide, not_lt] at sized
    have absent := (holds.2.1 _).symm.trans free
    rw [Option.map_eq_none_iff] at absent
    have sound : TaskGraphSnapshot.Sound ⟨graphId, authority.tenantId, 1, graph⟩
        (storageKey graphId authority.tenantId) := ⟨rfl, tenant, integrity, binding⟩
    have small : (1 : UInt64).toNat < 2 ^ 63 := by decide
    exact ⟨rfl, absent, holds.sqlite_insert sound small sized⟩

/-- A row that was written is read back as its snapshot. -/
theorem decode_ofSnapshot {snapshot read : TaskGraphSnapshot} (sound : snapshot.Sound key)
    (counted : snapshot.revision.toNat < 2 ^ 63)
    (decoded : (TaskGraphRow.ofSnapshot snapshot).decode key = .ok read) : read = snapshot := by
  obtain ⟨id, tenantId, revision, graph⟩ := snapshot
  replace decoded := rest_ok decoded
  obtain ⟨graph', deserialized, decoded⟩ := bind_eq_ok.1 decoded
  obtain ⟨tenant', named, decoded⟩ := bind_eq_ok.1 decoded
  iterate 3 replace decoded := rest_ok decoded
  obtain ⟨revision', numbered, decoded⟩ := bind_eq_ok.1 decoded
  cases decoded
  have sameKey : storageKey id tenantId = key := sound.key
  subst sameKey
  obtain rfl := Except.ok.inj ((tenantFromStorageKey_storageKey sound.tenant).symm.trans named)
  have sameGraph := Except.ok.inj
    ((TaskGraph.deserialize_toWire sound.integrity).symm.trans deserialized)
  have sameRevision := Except.ok.inj ((u64TryFrom_toNat counted).symm.trans numbered)
  dsimp only at sameGraph sameRevision
  rw [← sameGraph, ← sameRevision]
  rfl

/-- **A load** returns what is held under the caller's own key. -/
theorem loadAs_holds {store : TaskCoordinator} (holds : store.Holds held)
    {reply : Option TaskGraphSnapshot} (loaded : store.loadAs graphId authority = .ok reply) :
    reply = held (storageKey graphId authority.tenantId) := by
  replace loaded := rest_ok (rest_ok loaded)
  cases store with
  | memory graphs =>
    cases loaded
    exact holds.2 _
  | sqlite taskGraphs =>
    obtain ⟨sounds, stored, columns⟩ := holds
    have row := stored (storageKey graphId authority.tenantId)
    cases found : held (storageKey graphId authority.tenantId) with
    | none =>
      rw [found, Option.map_none] at row
      dsimp only at loaded
      rw [row] at loaded
      cases loaded
      rfl
    | some snapshot =>
      rw [found, Option.map_some] at row
      dsimp only at loaded
      rw [row] at loaded
      replace loaded := rest_ok loaded
      obtain ⟨read, decoded, loaded⟩ := bind_eq_ok.1 loaded
      cases loaded
      rw [decode_ofSnapshot (sounds _ _ found) (columns _ _ found).1 decoded]

/-- **A compare-and-swap** replaces exactly the snapshot of the expected revision. -/
theorem compareAndSwapAs_holds (holds : store.Holds held) {snapshot saved : TaskGraphSnapshot}
    (swapped : store.compareAndSwapAs snapshot authority = .ok (saved, next)) :
    snapshot.tenantId = authority.tenantId ∧ saved = { snapshot with revision := saved.revision } ∧
      saved.revision.toNat = snapshot.revision.toNat + 1 ∧
      (∃ current, held snapshot.key = some current ∧ current.revision = snapshot.revision) ∧
      next.Holds (Function.update held snapshot.key (some saved)) := by
  obtain ⟨current, swapped⟩ := seq_eq_ok.1 swapped
  replace swapped := rest_ok swapped
  have tenant := (seq_eq_ok.1 current).2
  cases store with
  | memory graphs =>
    obtain ⟨valid, swapped⟩ := seq_eq_ok.1 swapped
    obtain ⟨own, swapped⟩ := seq_eq_ok.1 swapped
    obtain ⟨before, found, swapped⟩ := bind_eq_ok.1 swapped
    obtain ⟨expected, swapped⟩ := seq_eq_ok.1 swapped
    obtain ⟨revision, counted, swapped⟩ := bind_eq_ok.1 swapped
    cases swapped
    rw [rejectIf_bne] at own expected
    rw [orError_eq_ok, ← own] at found
    rw [← own] at valid tenant ⊢
    obtain ⟨integrity, valid⟩ := seq_eq_ok.1 valid
    obtain ⟨binding, _⟩ := seq_eq_ok.1 valid
    exact ⟨rfl, rfl, toNat_checkedNext counted, ⟨before, (holds.2 _).symm.trans found, expected⟩,
      holds.memory_insert ⟨rfl, tenant, integrity, binding⟩⟩
  | sqlite taskGraphs =>
    obtain ⟨own, swapped⟩ := seq_eq_ok.1 swapped
    obtain ⟨valid, swapped⟩ := seq_eq_ok.1 swapped
    obtain ⟨revision, counted, swapped⟩ := bind_eq_ok.1 swapped
    obtain ⟨expectedSql, _, swapped⟩ := bind_eq_ok.1 swapped
    obtain ⟨nextSql, inSql, swapped⟩ := bind_eq_ok.1 swapped
    obtain ⟨row, found, swapped⟩ := bind_eq_ok.1 swapped
    obtain ⟨schema, swapped⟩ := seq_eq_ok.1 swapped
    obtain ⟨actual, numbered, swapped⟩ := bind_eq_ok.1 swapped
    obtain ⟨expected, swapped⟩ := seq_eq_ok.1 swapped
    replace swapped := rest_ok swapped
    cases swapped
    rw [rejectIf_bne] at own expected
    rw [orError_eq_ok] at found
    rw [← own] at tenant
    obtain ⟨integrity, valid⟩ := seq_eq_ok.1 valid
    obtain ⟨binding, sized⟩ := seq_eq_ok.1 valid
    rw [validateGraphSize, rejectIf_decide, not_lt] at sized
    have stored := (holds.2.1 snapshot.key).symm.trans found
    obtain ⟨before, held', rfl⟩ := Option.map_eq_some_iff.1 stored
    have same := Except.ok.inj
      ((u64TryFrom_toNat (holds.2.2 _ _ held').1).symm.trans numbered)
    obtain ⟨small, rfl⟩ := i64TryFrom_eq_ok.1 inSql
    have sound : TaskGraphSnapshot.Sound { snapshot with revision } snapshot.key :=
      ⟨rfl, tenant, integrity, binding⟩
    exact ⟨own, rfl, toNat_checkedNext counted, ⟨before, held', same.trans expected⟩,
      holds.sqlite_insert sound small sized⟩

/-! ## Tenants -/

/-- Two stores of one kind with the same graphs of a tenant. -/
def SameUnder (tenant : String) : TaskCoordinator → TaskCoordinator → Prop
  | memory left, memory right => Kernel.SameUnder tenant left right
  | sqlite left, sqlite right => Kernel.SameUnder tenant left right
  | _, _ => False

theorem SameUnder.refl (tenant : String) (store : TaskCoordinator) : store.SameUnder tenant store := by
  cases store with
  | memory graphs => exact Kernel.SameUnder.refl tenant graphs
  | sqlite taskGraphs => exact Kernel.SameUnder.refl tenant taskGraphs

/-- One reply, and the tenant's graphs are the same afterwards. -/
def RepliesAlike (tenant : String) (left right : TaskGraphSnapshot × TaskCoordinator) : Prop :=
  left.1 = right.1 ∧ left.2.SameUnder tenant right.2

variable {left right : TaskCoordinator} {authority : AuthorityContext}

/-- A creation reads only graphs of the caller's tenant. -/
theorem createAs_alike (same : left.SameUnder (tenantStorageKey authority.tenantId) right)
    (graphId : TaskGraphId) (graph : TaskGraph) :
    Alike (RepliesAlike (tenantStorageKey authority.tenantId))
      (left.createAs graphId graph authority) (right.createAs graphId graph authority) := by
  refine .shared _ fun _ _ => .shared _ fun _ _ => ?_
  cases left with
  | memory leftGraphs =>
    cases right with
    | sqlite _ => exact same.elim
    | memory rightGraphs =>
      dsimp only
      refine .shared _ fun _ _ => ?_
      rw [Kernel.SameUnder.contains same rfl]
      exact .shared _ fun _ _ => .ok ⟨rfl, Kernel.SameUnder.insert same _ _⟩
  | sqlite leftGraphs =>
    cases right with
    | memory _ => exact same.elim
    | sqlite rightGraphs =>
      dsimp only
      refine .shared _ fun _ _ => ?_
      rw [Kernel.SameUnder.contains same rfl]
      exact .shared _ fun _ _ => .ok ⟨rfl, Kernel.SameUnder.insert same _ _⟩

theorem loadAs_alike (same : left.SameUnder (tenantStorageKey authority.tenantId) right)
    (graphId : TaskGraphId) : left.loadAs graphId authority = right.loadAs graphId authority := by
  unfold loadAs
  cases left with
  | memory leftGraphs =>
    cases right with
    | sqlite _ => exact same.elim
    | memory rightGraphs =>
      dsimp only
      rw [same (storageKey graphId authority.tenantId) rfl]
  | sqlite leftGraphs =>
    cases right with
    | memory _ => exact same.elim
    | sqlite rightGraphs =>
      dsimp only
      rw [same (storageKey graphId authority.tenantId) rfl]

/-- A swap reads only graphs of the caller's tenant. -/
theorem compareAndSwapAs_alike (same : left.SameUnder (tenantStorageKey authority.tenantId) right)
    (snapshot : TaskGraphSnapshot) :
    Alike (RepliesAlike (tenantStorageKey authority.tenantId))
      (left.compareAndSwapAs snapshot authority) (right.compareAndSwapAs snapshot authority) := by
  refine .shared _ fun _ _ => .shared _ fun _ _ => ?_
  cases left with
  | memory leftGraphs =>
    cases right with
    | sqlite _ => exact same.elim
    | memory rightGraphs =>
      refine .shared _ fun _ _ => .shared _ fun _ _ => ?_
      dsimp only
      rw [same (storageKey snapshot.id authority.tenantId) rfl]
      exact .shared _ fun _ _ => .shared _ fun _ _ => .shared _ fun _ _ =>
        .ok ⟨rfl, Kernel.SameUnder.insert same _ _⟩
  | sqlite leftGraphs =>
    cases right with
    | memory _ => exact same.elim
    | sqlite rightGraphs =>
      refine .shared _ fun _ own => .shared _ fun _ _ => .shared _ fun _ _ =>
        .shared _ fun _ _ => .shared _ fun _ _ => ?_
      rw [rejectIf_bne] at own
      dsimp only
      rw [own, same (storageKey snapshot.id authority.tenantId) rfl]
      exact .shared _ fun _ _ => .shared _ fun _ _ => .shared _ fun _ _ =>
        .shared _ fun _ _ => .shared _ fun _ _ => .ok ⟨rfl, Kernel.SameUnder.insert same _ _⟩

variable {store next : TaskCoordinator} {tenant : String}

/-- A creation leaves the graphs of other tenants. -/
theorem createAs_other (other : tenantStorageKey authority.tenantId ≠ tenant) {graph : TaskGraph}
    (created : store.createAs graphId graph authority = .ok (snapshot, next)) :
    store.SameUnder tenant next := by
  replace created := rest_ok (rest_ok created)
  cases store with
  | memory graphs =>
    replace created := rest_ok (rest_ok created)
    cases created
    exact Kernel.SameUnder.insert_other graphs other _
  | sqlite taskGraphs =>
    replace created := rest_ok (rest_ok created)
    cases created
    exact Kernel.SameUnder.insert_other taskGraphs other _

/-- A swap leaves the graphs of other tenants. -/
theorem compareAndSwapAs_other (other : tenantStorageKey authority.tenantId ≠ tenant)
    {snapshot saved : TaskGraphSnapshot}
    (swapped : store.compareAndSwapAs snapshot authority = .ok (saved, next)) :
    store.SameUnder tenant next := by
  replace swapped := rest_ok (rest_ok swapped)
  cases store with
  | memory graphs =>
    replace swapped := rest_ok (rest_ok swapped)
    obtain ⟨_, _, swapped⟩ := bind_eq_ok.1 swapped
    replace swapped := rest_ok swapped
    obtain ⟨_, _, swapped⟩ := bind_eq_ok.1 swapped
    cases swapped
    exact Kernel.SameUnder.insert_other graphs other _
  | sqlite taskGraphs =>
    obtain ⟨own, swapped⟩ := seq_eq_ok.1 swapped
    replace swapped := rest_ok swapped
    obtain ⟨_, _, swapped⟩ := bind_eq_ok.1 swapped
    obtain ⟨_, _, swapped⟩ := bind_eq_ok.1 swapped
    obtain ⟨_, _, swapped⟩ := bind_eq_ok.1 swapped
    obtain ⟨_, _, swapped⟩ := bind_eq_ok.1 swapped
    replace swapped := rest_ok swapped
    obtain ⟨_, _, swapped⟩ := bind_eq_ok.1 swapped
    replace swapped := rest_ok (rest_ok swapped)
    cases swapped
    rw [rejectIf_bne] at own
    rw [← own] at other
    exact Kernel.SameUnder.insert_other taskGraphs other _

end TaskCoordinator

end YHarness.Orchestration

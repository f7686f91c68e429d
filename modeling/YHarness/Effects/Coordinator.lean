/-
# YHarness.Effects.Coordinator -- the ledger of Effects

The in-memory and the SQLite Effect Coordinator of `src/effect/coordinator.rs`.  The
map keeps an index from idempotency coordinates to identities beside the Effects; the
table has a unique constraint on the same columns.  A call holds the lock or runs in
one transaction, so it is one step, and one that fails leaves the store.

A row is read back only when the columns beside the text of its Effect agree with it
(`EffectRow.read`).  The text gives the input back with its numbers as they are read
(`EffectWire.reread`), and an Effect whose input is not the one its digest was taken of
is refused.
-/
import YHarness.Kernel.Storage
import YHarness.Lib.Revisions
import YHarness.Effects.Commands

namespace YHarness.Effects

open YHarness.Lib YHarness.Kernel

set_option autoImplicit false

structure EffectSnapshot where
  id : EffectId
  tenantId : Option String
  revision : UInt64
  effect : Effect

/-- The key a snapshot is stored under. -/
def EffectSnapshot.key (snapshot : EffectSnapshot) : StoreKey :=
  storageKey snapshot.id snapshot.tenantId

structure EffectCommandResult where
  snapshot : EffectSnapshot
  outcome : EffectApplyOutcome

def effectLedgerSchemaVersion : Int := 1
def maxEffectStatusBytes : Nat := 9
def maxEffectCapabilityBytes : Nat := 128

/-! ## Idempotency coordinates -/

/-- The tuple an idempotency key is unique in. -/
structure IdempotencyCoordinate where
  tenant : String
  capability : String
  operation : String
  idempotencyKey : String
deriving DecidableEq

section Order

attribute [local instance] lexOrd

/-- The fields of a coordinate, the most significant first. -/
abbrev IdempotencyCoordinate.fields (c : IdempotencyCoordinate) :
    String × String × String × String :=
  (c.tenant, c.capability, c.operation, c.idempotencyKey)

instance : Ord IdempotencyCoordinate where
  compare := compareOn IdempotencyCoordinate.fields

instance : Std.TransOrd IdempotencyCoordinate :=
  inferInstanceAs (Std.TransCmp (compareOn IdempotencyCoordinate.fields))

instance : Std.LawfulEqOrd IdempotencyCoordinate where
  eq_of_compare {left right} same := by
    have fields : left.fields = right.fields :=
      Std.compare_eq_iff_eq.1 (show compare left.fields right.fields = .eq from same)
    cases left
    cases right
    simp_all [IdempotencyCoordinate.fields]

end Order

/-- `idempotency_coordinate`. -/
def idempotencyCoordinate (tenant : String) (operation : EffectOperation)
    (idempotencyKey : String) : IdempotencyCoordinate :=
  ⟨tenant, operation.capability, operation.operation, idempotencyKey⟩

/-- The coordinate of an Effect. -/
def EffectSnapshot.coordinate (snapshot : EffectSnapshot) : IdempotencyCoordinate :=
  idempotencyCoordinate (tenantStorageKey snapshot.tenantId) snapshot.effect.operation
    snapshot.effect.idempotencyKey

/-! ## Checks -/

def statusName : EffectStatus → String
  | .pending .. => "pending"
  | .claimed _ => "claimed"
  | .unknown .. => "unknown"
  | .applied .. => "applied"
  | .rejected .. => "rejected"
  | .cancelled _ => "cancelled"

def sqlError (message : String) : HarnessError :=
  .effect ("SQLite Effect Ledger: " ++ message)

def missingEffect (effectId : EffectId) : HarnessError :=
  .effect s!"Effect {effectId} does not exist"

def existsDifferently (effectId : EffectId) : HarnessError :=
  .effect s!"Effect {effectId} already exists with different creation content"

def keyBound : HarnessError :=
  .effect "Effect idempotency key is already bound to different creation content"

def validateAccess (effectId : EffectId) (authority : AuthorityContext) :
    Except HarnessError Unit := do
  validateAuthority authority "Effect Coordinator authority"
  validateIdentity "Effect" effectId

def validateExpectedRevision (revision : UInt64) : Except HarnessError Unit :=
  rejectIf (revision == 0) (.effect "Effect revision must be positive")

def nextRevision (revision : UInt64) : Except HarnessError UInt64 :=
  checkedNext (.effect "Effect revision overflow") revision

def sqlRevision (value : UInt64) : Except HarnessError Int :=
  i64TryFrom (.effect "Effect revision exceeds SQLite") value

/-- `sql_time`. -/
def sqlCreationTime (value : UInt64) : Except HarnessError Int :=
  i64TryFrom (.effect "Effect time exceeds SQLite") value

/-- `u64::try_from` of a column. -/
def fromSql (invalid : String) (column : Int) : Except HarnessError UInt64 :=
  u64TryFrom (.effect invalid) column

def boundedTextColumn (kind : String) (maximum bytes : Nat) : Except HarnessError Unit :=
  rejectIf (decide (maximum < bytes)) (sqlError s!"{kind} exceeds {maximum} bytes")

section Stores

variable [Sha256]

/-- Whether a request of this authority created the Effect. -/
def Effect.createMatches (e : Effect) (request : EffectCreateRequest)
    (authority : AuthorityContext) : Except HarnessError Bool := do
  validateAuthority authority "Effect creation replay authority"
  if e.tenantId != authority.tenantId then .ok false
  else do
    let digest ← attributedDigest authority.actor authority.tenantId request.toJson
    .ok (e.transitions.head?.any fun t =>
      t.commandId == request.commandId && t.commandSha256 == digest)

/-! ## Rows -/

/-- What the JSON text of an Effect says: all but its charge. -/
structure EffectWire where
  tenantId : Option String
  operation : EffectOperation
  idempotencyKey : String
  input : Json
  inputSha256 : String
  createdAtMs : UInt64
  status : EffectStatus
  transitions : List EffectTransition

def Effect.toWire (e : Effect) : EffectWire :=
  ⟨e.tenantId, e.operation, e.idempotencyKey, e.input, e.inputSha256, e.createdAtMs, e.status,
    e.transitions⟩

namespace EffectWire

/-- The Effect of a text before its charge is computed. -/
def uncharged (w : EffectWire) : Effect :=
  ⟨w.tenantId, w.operation, w.idempotencyKey, w.input, w.inputSha256, w.createdAtMs, w.status,
    w.transitions, 0⟩

/-- `Deserialize`; the position that the decoder adds to an error is left out. -/
def deserialize (w : EffectWire) : Except HarnessError Effect :=
  (do
    w.uncharged.validate
    let materializationChargeBytes ← w.uncharged.encodedSize
    .ok { w.uncharged with materializationChargeBytes }).mapError fun error : HarnessError =>
      .effect ("decode Effect: " ++ error.display)

end EffectWire

/-- A transition as its text is read: a creation holds the input. -/
def EffectTransition.reread (t : EffectTransition) : EffectTransition :=
  match t.kind with
  | .created tenantId operation idempotencyKey input inputSha256 notBeforeMs =>
    { t with
      kind := .created tenantId operation idempotencyKey (readNumbers input) inputSha256
        notBeforeMs }
  | _ => t

/-- What is read of a text.  The input is a JSON value, so its objects are maps already. -/
def EffectWire.reread (w : EffectWire) : EffectWire :=
  { w with
    input := readNumbers w.input
    transitions := w.transitions.map EffectTransition.reread }

/-- A row of `effects`; its key is the tenant and the identity. -/
structure EffectRow where
  schemaVersion : Int
  revision : Int
  capability : String
  operation : String
  idempotencyKey : String
  createdAtMs : Int
  status : String
  effect : EffectWire

namespace EffectRow

/-- `read_row`. -/
def readRow (key : StoreKey) (row : EffectRow) : Except HarnessError Unit := do
  boundedTextColumn "Effect identity" maxEffectIdentityBytes key.id.utf8ByteSize
  boundedTextColumn "Effect capability" maxEffectCapabilityBytes row.capability.utf8ByteSize
  boundedTextColumn "Effect operation" maxEffectCapabilityBytes row.operation.utf8ByteSize
  boundedTextColumn "Effect idempotency key" maxEffectIdentityBytes row.idempotencyKey.utf8ByteSize
  boundedTextColumn "Effect status" maxEffectStatusBytes row.status.utf8ByteSize
  boundedTextColumn "Effect aggregate" maxEffectJsonBytes row.effect.uncharged.toJson.encodedLen

/-- `decode_row`. -/
def decodeRow (tenantId : Option String) (key : StoreKey) (row : EffectRow) :
    Except HarnessError EffectSnapshot := do
  rejectIf (row.schemaVersion != effectLedgerSchemaVersion)
    (.effect s!"Effect {key.id} uses unsupported schema {row.schemaVersion}")
  let revision ← fromSql "invalid Effect revision" row.revision
  validateExpectedRevision revision
  let createdAtMs ← fromSql "invalid Effect creation time" row.createdAtMs
  let effect ← row.effect.reread.deserialize
  effect.validate
  rejectIf (revision.toNat != effect.transitions.length || effect.tenantId != tenantId ||
      effect.operation.capability != row.capability || effect.operation.operation != row.operation ||
      effect.idempotencyKey != row.idempotencyKey || effect.createdAtMs != createdAtMs ||
      statusName effect.status != row.status)
    (.effect "Effect SQLite projection differs from aggregate")
  .ok ⟨key.id, tenantId, revision, effect⟩

/-- A selected row. -/
def read (tenantId : Option String) (key : StoreKey) (row : EffectRow) :
    Except HarnessError EffectSnapshot := do
  row.readRow key
  row.decodeRow tenantId key

/-- The coordinate of a row. -/
def coordinate (key : StoreKey) (row : EffectRow) : IdempotencyCoordinate :=
  ⟨key.tenant, row.capability, row.operation, row.idempotencyKey⟩

/-- The row of a snapshot. -/
def ofSnapshot (snapshot : EffectSnapshot) : EffectRow :=
  ⟨effectLedgerSchemaVersion, snapshot.revision.toNat, snapshot.effect.operation.capability,
    snapshot.effect.operation.operation, snapshot.effect.idempotencyKey,
    snapshot.effect.createdAtMs.toNat, statusName snapshot.effect.status, snapshot.effect.toWire⟩

end EffectRow

/-- The checks of `encode_effect`. -/
def encodeEffect (e : Effect) : Except HarnessError Unit := do
  e.validate
  rejectIf (decide (maxEffectJsonBytes < e.toJson.encodedLen))
    (.effect s!"Effect exceeds {maxEffectJsonBytes} encoded bytes")

/-! ## The two stores -/

structure MemoryEffectState where
  effects : OrdMap StoreKey EffectSnapshot
  idempotency : OrdMap IdempotencyCoordinate EffectId

inductive EffectCoordinator where
  | memory (state : MemoryEffectState)
  | sqlite (effects : OrdMap StoreKey EffectRow)

/-- `load_snapshot`. -/
def loadSnapshot (effects : OrdMap StoreKey EffectRow) (effectId : EffectId)
    (tenantId : Option String) : Except HarnessError (Option EffectSnapshot) :=
  let key := storageKey effectId tenantId
  match effects[key]? with
  | none => .ok none
  | some row => do
    let snapshot ← row.read tenantId key
    .ok (some snapshot)

/-- `load_by_idempotency`. -/
def loadByIdempotency (effects : OrdMap StoreKey EffectRow) (tenantId : Option String)
    (coordinate : IdempotencyCoordinate) : Except HarnessError (Option EffectSnapshot) :=
  match effects.toList.find? fun entry => entry.2.coordinate entry.1 == coordinate with
  | none => .ok none
  | some (key, row) => do
    let snapshot ← row.read tenantId key
    .ok (some snapshot)

namespace EffectCoordinator

/-- The snapshot and the store after a creation. -/
def createAs (store : EffectCoordinator) (effectId : EffectId) (request : EffectCreateRequest)
    (appliedAtMs : UInt64) (authority : AuthorityContext) :
    Except HarnessError (EffectSnapshot × EffectCoordinator) := do
  validateAccess effectId authority
  let effect ← Effect.new request appliedAtMs authority
  let identity := storageKey effectId authority.tenantId
  let coordinate := idempotencyCoordinate identity.tenant request.operation request.idempotencyKey
  let snapshot : EffectSnapshot := ⟨effectId, authority.tenantId, 1, effect⟩
  match store with
  | memory state =>
    match state.effects[identity]? with
    | some existing => do
      let same ← existing.effect.createMatches request authority
      if same then .ok (existing, store) else .error (existsDifferently effectId)
    | none =>
      match state.idempotency[coordinate]? with
      | some existingId => do
        let existing ← orError (.effect "Effect idempotency index points to missing state")
          state.effects[(⟨identity.tenant, existingId⟩ : StoreKey)]?
        let same ← existing.effect.createMatches request authority
        if same then .ok (existing, store) else .error keyBound
      | none =>
        .ok (snapshot, memory ⟨state.effects.insert identity snapshot,
          state.idempotency.insert coordinate effectId⟩)
  | sqlite effects => do
    let here ← loadSnapshot effects effectId authority.tenantId
    match here with
    | some existing => do
      let same ← existing.effect.createMatches request authority
      if same then .ok (existing, store) else .error (existsDifferently effectId)
    | none => do
      let bound ← loadByIdempotency effects authority.tenantId coordinate
      match bound with
      | some existing => do
        let same ← existing.effect.createMatches request authority
        if same then .ok (existing, store) else .error keyBound
      | none => do
        encodeEffect effect
        let createdAtMs ← sqlCreationTime effect.createdAtMs
        rejectIf (decide (createdAtMs ≤ 0))
          (sqlError "CHECK constraint failed: created_at_ms > 0")
        rejectIf (effects.contains identity)
          (sqlError "UNIQUE constraint failed: effects.tenant_id, effects.effect_id")
        rejectIf (effects.toList.any fun entry => entry.2.coordinate entry.1 == coordinate)
          (sqlError ("UNIQUE constraint failed: effects.tenant_id, effects.capability, " ++
            "effects.operation, effects.idempotency_key"))
        .ok (snapshot, sqlite (effects.insert identity
          ⟨effectLedgerSchemaVersion, 1, effect.operation.capability,
            effect.operation.operation, effect.idempotencyKey, createdAtMs,
            statusName effect.status, effect.toWire⟩))

def loadAs (store : EffectCoordinator) (effectId : EffectId) (authority : AuthorityContext) :
    Except HarnessError (Option EffectSnapshot) := do
  validateAccess effectId authority
  match store with
  | memory state => .ok state.effects[storageKey effectId authority.tenantId]?
  | sqlite effects => loadSnapshot effects effectId authority.tenantId

/-- The result and the store after a command. -/
def applyAs (store : EffectCoordinator) (effectId : EffectId) (expectedRevision : UInt64)
    (command : EffectCommand) (appliedAtMs : UInt64) (authority : AuthorityContext) :
    Except HarnessError (EffectCommandResult × EffectCoordinator) := do
  validateAccess effectId authority
  validateExpectedRevision expectedRevision
  let key := storageKey effectId authority.tenantId
  match store with
  | memory state => do
    let current ← orError (missingEffect effectId) state.effects[key]?
    let recognized ← current.effect.recognizesCommand command authority
    if recognized then .ok (⟨current, .duplicate⟩, store)
    else do
      rejectIf (current.revision != expectedRevision)
        (.effectConflict effectId expectedRevision current.revision)
      let (effect, outcome) ← current.effect.apply command appliedAtMs authority
      let revision ← nextRevision current.revision
      let snapshot : EffectSnapshot := ⟨effectId, current.tenantId, revision, effect⟩
      .ok (⟨snapshot, outcome⟩, memory { state with effects := state.effects.insert key snapshot })
  | sqlite effects => do
    let loaded ← loadSnapshot effects effectId authority.tenantId
    let current ← orError (missingEffect effectId) loaded
    let recognized ← current.effect.recognizesCommand command authority
    if recognized then .ok (⟨current, .duplicate⟩, store)
    else do
      rejectIf (current.revision != expectedRevision)
        (.effectConflict effectId expectedRevision current.revision)
      let (effect, outcome) ← current.effect.apply command appliedAtMs authority
      let revision ← nextRevision current.revision
      encodeEffect effect
      let nextSql ← sqlRevision revision
      let currentSql ← sqlRevision current.revision
      let row ← orError (.effect "Effect atomic update changed an unexpected row count")
        (effects[key]?.filter fun row => row.revision == currentSql)
      .ok (⟨⟨effectId, current.tenantId, revision, effect⟩, outcome⟩,
        sqlite (effects.insert key { row with
          revision := nextSql, status := statusName effect.status, effect := effect.toWire }))

end EffectCoordinator

end Stores

end YHarness.Effects

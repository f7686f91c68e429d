/-
# YHarness.Effects.Stores -- the map and the table refine one ledger

`Holds` says that a store keeps the snapshots of a sound ledger: the map as they are,
with an index from coordinates to identities, and the table as rows.  Each call of a
store then answers as the ledger does and leaves a store that holds the ledger it
leaves (`createAs_refines`, `loadAs_refines`, `applyAs_refines`).  There are two
differences: a table stores no creation time from 2^63 on, and gives back only an Effect
whose input is read as it was written.
-/
import YHarness.Effects.Ledger

namespace YHarness.Effects

open YHarness.Lib YHarness.Kernel

set_option autoImplicit false

/-! ## Columns -/

theorem capabilityName_size {kind name : String}
    (valid : (validateCapabilityName kind name).mapError HarnessError.asEffect = .ok ()) :
    name.utf8ByteSize ≤ maxEffectCapabilityBytes := by
  rw [mapError_eq_ok, validateCapabilityName, rejectIf_eq_ok, Bool.not_eq_false', boundedText,
    Bool.and_eq_true, Bool.and_eq_true, decide_eq_true_eq] at valid
  exact valid.1.2.trans (by decide)

theorem identity_size {kind value : String} (valid : validateIdentity kind value = .ok ()) :
    value.utf8ByteSize ≤ maxEffectIdentityBytes := by
  rw [validateIdentity, rejectIf_eq_ok, Bool.or_eq_false_iff, Bool.or_eq_false_iff,
    decide_eq_false_iff_not, not_lt] at valid
  exact valid.1.2

theorem statusName_size (status : EffectStatus) :
    (statusName status).utf8ByteSize ≤ maxEffectStatusBytes := by
  cases status <;> simp only [statusName] <;> decide

section Stores

variable [Sha256]

/-! ## What a store holds -/

/-- The index leads from the coordinate of every Effect to its identity, and nowhere else. -/
def Indexes (idempotency : OrdMap IdempotencyCoordinate EffectId) (held : EffectLedger) : Prop :=
  ∀ (coordinate : IdempotencyCoordinate) (effectId : EffectId),
    idempotency[coordinate]? = some effectId ↔
      ∃ snapshot, held ⟨coordinate.tenant, effectId⟩ = some snapshot ∧
        snapshot.coordinate = coordinate

/-- The rows of the snapshots. -/
structure Rows (effects : OrdMap StoreKey EffectRow) (held : EffectLedger) : Prop where
  stored : ∀ key : StoreKey, effects[key]? = (held key).map EffectRow.ofSnapshot
  timely : ∀ key snapshot, held key = some snapshot → snapshot.effect.createdAtMs.toNat < 2 ^ 63
  exact : ∀ key snapshot, held key = some snapshot → ReadExactly snapshot.effect.input

namespace EffectCoordinator

def Keeps (held : EffectLedger) : EffectCoordinator → Prop
  | memory state => (∀ key : StoreKey, state.effects[key]? = held key) ∧
      Indexes state.idempotency held
  | sqlite effects => Rows effects held

/-- The store keeps exactly the snapshots of a sound ledger. -/
structure Holds (store : EffectCoordinator) (held : EffectLedger) : Prop where
  sound : held.Sound
  keeps : store.Keeps held

/-- The creation times a store has room for. -/
def admits : EffectCoordinator → UInt64 → Except HarnessError Unit
  | memory _, _ => .ok ()
  | sqlite _, appliedAtMs => do
    let _ ← sqlCreationTime appliedAtMs
    .ok ()

/-- The store gives an input back as it was written. -/
def Rereads : EffectCoordinator → Json → Prop
  | memory _, _ => True
  | sqlite _, input => ReadExactly input

theorem memory_empty_holds : (memory ⟨∅, ∅⟩).Holds fun _ => none where
  sound := EffectLedger.empty_sound
  keeps := by
    refine ⟨fun key => OrdMap.get?_empty key, fun coordinate effectId => ?_⟩
    rw [OrdMap.get?_empty]
    constructor
    · intro found
      cases found
    · rintro ⟨_, kept, _⟩
      cases kept

theorem sqlite_empty_holds : (sqlite ∅).Holds fun _ => none where
  sound := EffectLedger.empty_sound
  keeps := by
    refine ⟨fun key => OrdMap.get?_empty key, ?_, ?_⟩
    all_goals
      intro _ _ kept
      cases kept

end EffectCoordinator

/-! ## Writes -/

section Index

variable {idempotency : OrdMap IdempotencyCoordinate EffectId} {held : EffectLedger}
  {snapshot : EffectSnapshot}

/-- A new Effect under a free key enters the index. -/
theorem Indexes.insert (indexes : Indexes idempotency held) (free : held snapshot.key = none)
    (unbound : ∀ other, held other.key = some other → other.coordinate ≠ snapshot.coordinate)
    (sound : held.Sound) :
    Indexes (idempotency.insert snapshot.coordinate snapshot.id)
      (Function.update held snapshot.key (some snapshot)) := by
  intro coordinate effectId
  by_cases same : snapshot.coordinate = coordinate
  · subst same
    rw [OrdMap.get?_insert_self, Option.some_inj]
    constructor
    · rintro rfl
      exact ⟨snapshot, Function.update_self .., rfl⟩
    · rintro ⟨other, kept, bound⟩
      by_cases written : (⟨snapshot.coordinate.tenant, effectId⟩ : StoreKey) = snapshot.key
      · exact (congrArg StoreKey.id written).symm
      · rw [Function.update_of_ne written] at kept
        have key := (sound.sound _ _ kept).key
        rw [← key] at kept
        exact absurd bound (unbound other kept)
  · rw [OrdMap.get?_insert_of_ne _ _ same, indexes coordinate effectId]
    by_cases written : (⟨coordinate.tenant, effectId⟩ : StoreKey) = snapshot.key
    · rw [written, Function.update_self, free]
      constructor
      · rintro ⟨_, kept, _⟩
        cases kept
      · rintro ⟨_, kept, bound⟩
        cases kept
        exact absurd bound same
    · rw [Function.update_of_ne written]

omit [Sha256] in
/-- An Effect that takes the place of one with its coordinate leaves the index. -/
theorem Indexes.replace (indexes : Indexes idempotency held) {key : StoreKey}
    {current : EffectSnapshot} (kept : held key = some current)
    (same : snapshot.coordinate = current.coordinate) :
    Indexes idempotency (Function.update held key (some snapshot)) := by
  intro coordinate effectId
  rw [indexes coordinate effectId]
  by_cases written : (⟨coordinate.tenant, effectId⟩ : StoreKey) = key
  · rw [written, Function.update_self, kept]
    constructor
    · rintro ⟨_, found, bound⟩
      cases found
      exact ⟨snapshot, rfl, same.trans bound⟩
    · rintro ⟨_, found, bound⟩
      cases found
      exact ⟨current, rfl, same.symm.trans bound⟩
  · rw [Function.update_of_ne written]

/-- A row that is written is the row of its snapshot. -/
theorem Rows.insert {effects : OrdMap StoreKey EffectRow} (rows : Rows effects held)
    {key : StoreKey} (timely : snapshot.effect.createdAtMs.toNat < 2 ^ 63)
    (exact : ReadExactly snapshot.effect.input) :
    Rows (effects.insert key (.ofSnapshot snapshot))
      (Function.update held key (some snapshot)) := by
  refine ⟨fun k => ?_, forall_update rows.timely timely, forall_update rows.exact exact⟩
  by_cases same : key = k
  · subst same
    rw [OrdMap.get?_insert_self, Function.update_self, Option.map_some]
  · rw [OrdMap.get?_insert_of_ne _ _ same, Function.update_of_ne (Ne.symm same)]
    exact rows.stored k

end Index

/-! ## Rows -/

omit [Sha256] in
theorem sqlRevision_ok {value : UInt64} (small : value.toNat < 2 ^ 63) :
    sqlRevision value = .ok (value.toNat : Int) :=
  i64TryFrom_eq_ok.2 ⟨small, rfl⟩

variable {key : StoreKey} {authority : AuthorityContext} {snapshot : EffectSnapshot}

/-- A snapshot has at most as many revisions as a history has transitions. -/
theorem EffectSnapshot.Sound.small (sound : snapshot.Sound key) :
    0 < snapshot.revision.toNat ∧ snapshot.revision.toNat < 2 ^ 63 := by
  obtain ⟨positive, bounded⟩ := sound.reached.count
  have ceiling : maxEffectTransitions < 2 ^ 63 := by decide
  rw [sound.revision]
  omega

/-- **The row of a snapshot is read back as it.** -/
theorem EffectSnapshot.Sound.read (sound : snapshot.Sound key)
    (timely : snapshot.effect.createdAtMs.toNat < 2 ^ 63)
    (exact : ReadExactly snapshot.effect.input) :
    (EffectRow.ofSnapshot snapshot).read snapshot.tenantId key = .ok snapshot := by
  obtain ⟨positive, small⟩ := sound.small
  obtain ⟨_, replays⟩ := Effect.validate_eq_ok.1 sound.reached.valid
  obtain ⟨_, _, _, _, _, creation⟩ := replays.creation
  obtain ⟨capability, operation⟩ := seq_eq_ok.1 creation.operation
  have id : key.id = snapshot.id := by rw [← sound.key]; rfl
  have columns : (EffectRow.ofSnapshot snapshot).readRow key = .ok () := by
    refine seq_eq_ok.2 ⟨rejectIf_fits (id ▸ identity_size sound.identity), seq_eq_ok.2
      ⟨rejectIf_fits (capabilityName_size capability), seq_eq_ok.2
      ⟨rejectIf_fits (capabilityName_size operation), seq_eq_ok.2
      ⟨rejectIf_fits (identity_size creation.key), seq_eq_ok.2
      ⟨rejectIf_fits (statusName_size _), rejectIf_fits ?_⟩⟩⟩⟩⟩
    exact sound.reached.sized.2
  refine seq_eq_ok.2 ⟨columns, seq_eq_ok.2 ⟨?_, bind_eq_ok.2 ⟨_, u64TryFrom_toNat small,
    seq_eq_ok.2 ⟨?_, bind_eq_ok.2 ⟨_, u64TryFrom_toNat timely, bind_eq_ok.2
      ⟨_, sound.reached.deserialize exact, seq_eq_ok.2 ⟨sound.reached.valid, seq_eq_ok.2 ⟨?_, ?_⟩⟩⟩⟩⟩⟩⟩⟩
  · rw [rejectIf_bne]
    rfl
  · rw [validateExpectedRevision, rejectIf_eq_ok, beq_eq_false_iff_ne]
    rintro zero
    rw [zero] at positive
    exact absurd positive (by decide)
  · simp [EffectRow.ofSnapshot, sound.revision, sound.owner]
  · rw [id]

/-! ## Lookups -/

section Lookups

variable {held : EffectLedger} {coordinate : IdempotencyCoordinate}

variable {idempotency : OrdMap IdempotencyCoordinate EffectId}

theorem Indexes.boundTo_none (indexes : Indexes idempotency held) (sound : held.Sound)
    (absent : idempotency[coordinate]? = none) : held.boundTo coordinate = none := by
  cases bound : held.boundTo coordinate with
  | none => rfl
  | some snapshot =>
    obtain ⟨kept, rfl⟩ := sound.boundTo_eq_some.1 bound
    have entry := (indexes snapshot.coordinate snapshot.id).2 ⟨snapshot, kept, rfl⟩
    rw [absent] at entry
    cases entry

theorem Indexes.boundTo_some (indexes : Indexes idempotency held) (sound : held.Sound)
    {effectId : EffectId} (found : idempotency[coordinate]? = some effectId) :
    ∃ snapshot, held ⟨coordinate.tenant, effectId⟩ = some snapshot ∧
      held.boundTo coordinate = some snapshot := by
  obtain ⟨snapshot, kept, bound⟩ := (indexes coordinate effectId).1 found
  have key := (sound.sound _ _ kept).key
  exact ⟨snapshot, kept, sound.boundTo_eq_some.2 ⟨key ▸ kept, bound⟩⟩

variable {effects : OrdMap StoreKey EffectRow} {tenantId : Option String}

theorem Rows.loadSnapshot (rows : Rows effects held) (sound : held.Sound)
    (tenant : Kernel.validateTenant tenantId = .ok ()) (effectId : EffectId) :
    loadSnapshot effects effectId tenantId = .ok (held (storageKey effectId tenantId)) := by
  rw [Effects.loadSnapshot, rows.stored]
  cases kept : held (storageKey effectId tenantId) with
  | none => rfl
  | some snapshot =>
    have stored := sound.sound _ _ kept
    have own : snapshot.tenantId = tenantId :=
      tenantStorageKey_injective stored.tenant tenant (congrArg StoreKey.tenant stored.key)
    subst own
    exact bind_eq_ok.2 ⟨_, stored.read (rows.timely _ _ kept) (rows.exact _ _ kept), rfl⟩

/-- The coordinate in a row is that of its snapshot. -/
theorem EffectSnapshot.Sound.row_coordinate {snapshot : EffectSnapshot} {key : StoreKey}
    (stored : snapshot.Sound key) :
    (EffectRow.ofSnapshot snapshot).coordinate key = snapshot.coordinate := by
  rw [EffectRow.coordinate, ← stored.key]
  rfl

/-- A row has a coordinate when its snapshot is bound to it. -/
theorem Rows.row_bound (rows : Rows effects held) (sound : held.Sound) {key : StoreKey}
    {row : EffectRow} (entry : (key, row) ∈ effects.toList)
    (same : row.coordinate key = coordinate) :
    ∃ snapshot, held.boundTo coordinate = some snapshot ∧ snapshot.Sound key ∧
      held key = some snapshot ∧ row = .ofSnapshot snapshot := by
  have selected := OrdMap.mem_toList.1 entry
  rw [rows.stored, Option.map_eq_some_iff] at selected
  obtain ⟨snapshot, kept, rfl⟩ := selected
  have stored := sound.sound _ _ kept
  rw [stored.row_coordinate] at same
  exact ⟨snapshot, sound.boundTo_eq_some.2 ⟨stored.key.symm ▸ kept, same⟩, stored, kept, rfl⟩

theorem Rows.unbound (rows : Rows effects held) (sound : held.Sound)
    (unbound : ∀ entry ∈ effects.toList, entry.2.coordinate entry.1 ≠ coordinate) :
    held.boundTo coordinate = none := by
  cases bound : held.boundTo coordinate with
  | none => rfl
  | some snapshot =>
    obtain ⟨kept, rfl⟩ := sound.boundTo_eq_some.1 bound
    have selected : effects[snapshot.key]? = some (.ofSnapshot snapshot) := by
      rw [rows.stored, kept, Option.map_some]
    exact absurd (sound.sound _ _ kept).row_coordinate
      (unbound _ (OrdMap.mem_toList.2 selected))

theorem Rows.loadByIdempotency (rows : Rows effects held) (sound : held.Sound)
    (tenant : Kernel.validateTenant tenantId = .ok ())
    (owner : coordinate.tenant = tenantStorageKey tenantId) :
    loadByIdempotency effects tenantId coordinate = .ok (held.boundTo coordinate) := by
  rw [Effects.loadByIdempotency]
  cases found : effects.toList.find? fun entry => entry.2.coordinate entry.1 == coordinate with
  | none =>
    have unbound : held.boundTo coordinate = none := by
      refine rows.unbound sound fun entry member same => ?_
      have differs := List.find?_eq_none.1 found entry member
      rw [beq_iff_eq] at differs
      exact differs same
    rw [unbound]
  | some entry =>
    obtain ⟨key, row⟩ := entry
    have same := List.find?_some found
    rw [beq_iff_eq] at same
    obtain ⟨snapshot, bound, stored, kept, rfl⟩ :=
      rows.row_bound sound (List.mem_of_find?_eq_some found) same
    have sameTenant : tenantStorageKey snapshot.tenantId = tenantStorageKey tenantId := by
      rw [← owner, ← (sound.boundTo_eq_some.1 bound).2]
      rfl
    have own := tenantStorageKey_injective stored.tenant tenant sameTenant
    subst own
    rw [bound]
    exact bind_eq_ok.2 ⟨_, stored.read (rows.timely _ _ kept) (rows.exact _ _ kept), rfl⟩

end Lookups

/-! ## Refinement -/

omit [Sha256] in
theorem validateAccess_eq_ok {effectId : EffectId}
    (access : validateAccess effectId authority = .ok ()) :
    Kernel.validateTenant authority.tenantId = .ok () ∧
      validateIdentity "Effect" effectId = .ok () := by
  obtain ⟨current, identity⟩ := seq_eq_ok.1 access
  rw [validateAuthority, mapError_eq_ok] at current
  exact ⟨(seq_eq_ok.1 current).2, identity⟩

/-- The snapshot of a creation may be stored. -/
theorem created_sound {effectId : EffectId} {request : EffectCreateRequest} {appliedAtMs : UInt64}
    {effect : Effect} (access : validateAccess effectId authority = .ok ())
    (created : Effect.new request appliedAtMs authority = .ok effect) :
    EffectSnapshot.Sound ⟨effectId, authority.tenantId, 1, effect⟩
      (storageKey effectId authority.tenantId) := by
  obtain ⟨tenant, identity⟩ := validateAccess_eq_ok access
  obtain ⟨_, _, owner, _, _, _, _, one, _, _⟩ := Effect.new_eq_ok created
  exact ⟨rfl, identity, tenant, owner, .new created, one.symm⟩

/-- The snapshot of an accepted command may be stored. -/
theorem applied_sound {current : EffectSnapshot} (stored : current.Sound key) {effect : Effect}
    {revision : UInt64} {t : EffectTransition} {status : EffectStatus} (reached : effect.Reachable)
    (extended : effect = (current.effect.extend t status).charged)
    (counted : nextRevision current.revision = .ok revision) :
    EffectSnapshot.Sound ⟨current.id, current.tenantId, revision, effect⟩ key := by
  refine ⟨stored.key, stored.identity, stored.tenant, ?_, reached, ?_⟩
  · rw [extended]
    exact stored.owner
  · show revision.toNat = effect.transitions.length
    rw [toNat_checkedNext counted, stored.revision, extended]
    simp [Effect.charged, Effect.extend]

namespace EffectCoordinator

variable {A : Type} {store : EffectCoordinator} {held : EffectLedger}

/-- One answer, and a store of the same kind that holds the ledger that is left. -/
structure Matches (store : EffectCoordinator) (left : A × EffectCoordinator)
    (right : A × EffectLedger) : Prop where
  answer : left.1 = right.1
  holds : left.2.Holds right.2
  admits : left.2.admits = store.admits
  rereads : left.2.Rereads = store.Rereads

theorem answer_refines (holds : store.Holds held) (existing : EffectSnapshot)
    (request : EffectCreateRequest) (authority : AuthorityContext) (otherwise : HarnessError) :
    Alike store.Matches
      (do
        let same ← existing.effect.createMatches request authority
        if same then .ok (existing, store) else .error otherwise)
      (held.answer existing request authority otherwise) := by
  refine .shared _ fun same _ => ?_
  cases same with
  | true => exact .ok ⟨rfl, holds, rfl, rfl⟩
  | false => exact .error _

variable {snapshot : EffectSnapshot}

variable {effects : OrdMap StoreKey EffectRow} {current : EffectSnapshot} {key : StoreKey}
  {state : MemoryEffectState}

theorem Holds.memory_add (holds : (memory state).Holds held) (written : snapshot.Sound snapshot.key)
    (free : held snapshot.key = none) (unbound : held.boundTo snapshot.coordinate = none) :
    (memory ⟨state.effects.insert snapshot.key snapshot,
      state.idempotency.insert snapshot.coordinate snapshot.id⟩).Holds
        (Function.update held snapshot.key (some snapshot)) := by
  obtain ⟨stored, indexes⟩ := holds.keeps
  refine ⟨holds.sound.add written unbound, fun k => ?_, ?_⟩
  · rw [congrFun (OrdMap.get?_insert state.effects _ _) k,
      show (fun k : StoreKey => state.effects[k]?) = held from funext stored]
  · exact indexes.insert free (fun other kept => EffectLedger.boundTo_eq_none unbound kept)
      holds.sound

theorem Holds.sqlite_add (holds : (sqlite effects).Holds held)
    (written : snapshot.Sound snapshot.key) (unbound : held.boundTo snapshot.coordinate = none)
    (timely : snapshot.effect.createdAtMs.toNat < 2 ^ 63)
    (exact : ReadExactly snapshot.effect.input) :
    (sqlite (effects.insert snapshot.key (.ofSnapshot snapshot))).Holds
      (Function.update held snapshot.key (some snapshot)) :=
  ⟨holds.sound.add written unbound, Rows.insert holds.keeps timely exact⟩

/-- Neither constraint of the table stops a row that the lookups did not find. -/
theorem constraints_ok (holds : (sqlite effects).Holds held) {coordinate : IdempotencyCoordinate}
    (free : held key = none) (unbound : held.boundTo coordinate = none) :
    effects.contains key = false ∧
      (effects.toList.any fun entry => entry.2.coordinate entry.1 == coordinate) = false := by
  have rows : Rows effects held := holds.keeps
  constructor
  · rw [Std.ExtTreeMap.contains_eq_isSome_getElem?, rows.stored, free]
    rfl
  · rw [List.any_eq_false]
    rintro ⟨key, row⟩ entry same
    rw [beq_iff_eq] at same
    obtain ⟨_, bound, _⟩ := rows.row_bound holds.sound entry same
    rw [unbound] at bound
    cases bound

theorem encodeEffect_ok {e : Effect} (reached : e.Reachable) : encodeEffect e = .ok () := by
  refine seq_eq_ok.2 ⟨reached.valid, ?_⟩
  rw [rejectIf_decide, not_lt]
  exact reached.sized.2

variable {effectId : EffectId} {authority : AuthorityContext}

/-- **A creation** is that of the ledger, if the store gives a new input back. -/
theorem createAs_refines (holds : store.Holds held) (request : EffectCreateRequest)
    (appliedAtMs : UInt64)
    (given : held.boundTo (EffectLedger.asks request authority.tenantId) = none →
      store.Rereads request.input) :
    Alike store.Matches (store.createAs effectId request appliedAtMs authority)
      (held.create store.admits effectId request appliedAtMs authority) := by
  refine .shared _ fun _ access => .shared _ fun effect created => ?_
  have written := created_sound access created
  obtain ⟨tenant, _⟩ := validateAccess_eq_ok access
  obtain ⟨_, _, owner, operation, idempotencyKey, time, positive, _⟩ := Effect.new_eq_ok created
  dsimp only
  generalize named : (⟨effectId, authority.tenantId, 1, effect⟩ : EffectSnapshot) = snapshot
    at written
  have key : storageKey effectId authority.tenantId = snapshot.key := by
    rw [← named]
    rfl
  have coordinate : idempotencyCoordinate (storageKey effectId authority.tenantId).tenant
      request.operation request.idempotencyKey = snapshot.coordinate := by
    rw [← named, ← operation, ← idempotencyKey]
    rfl
  have effectId_eq : effectId = snapshot.id := by rw [← named]
  have effect_eq : effect = snapshot.effect := by rw [← named]
  have input : snapshot.effect.input = request.input := effect_eq ▸ Effect.new_input created
  rw [show EffectLedger.asks request authority.tenantId = snapshot.coordinate from coordinate]
    at given
  rw [coordinate]
  rw [key] at written ⊢
  cases store with
  | memory state =>
    obtain ⟨stored, indexes⟩ := holds.keeps
    dsimp only
    rw [stored]
    cases here : held snapshot.key with
    | some existing => exact answer_refines holds existing request authority _
    | none =>
      cases found : state.idempotency[snapshot.coordinate]? with
      | some existingId =>
        obtain ⟨existing, kept, bound⟩ := indexes.boundTo_some holds.sound found
        have tenantKey : snapshot.coordinate.tenant = snapshot.key.tenant := rfl
        rw [tenantKey] at kept
        rw [bound]
        dsimp only
        rw [stored, kept]
        exact answer_refines holds existing request authority _
      | none =>
        have unbound := indexes.boundTo_none holds.sound found
        rw [unbound, effectId_eq]
        exact .ok ⟨rfl, holds.memory_add written here unbound, rfl, rfl⟩
  | sqlite effects =>
    have rows : Rows effects held := holds.keeps
    dsimp only
    rw [rows.loadSnapshot holds.sound tenant, key]
    cases here : held snapshot.key with
    | some existing => exact answer_refines holds existing request authority _
    | none =>
      have sameTenant : snapshot.coordinate.tenant = tenantStorageKey authority.tenantId :=
        congrArg StoreKey.tenant key.symm
      rw [ok_bind]
      dsimp only
      rw [rows.loadByIdempotency holds.sound tenant sameTenant, ok_bind]
      cases bound : held.boundTo snapshot.coordinate with
      | some existing => exact answer_refines holds existing request authority _
      | none =>
        obtain ⟨untaken, unique⟩ := constraints_ok holds here bound
        rw [encodeEffect_ok (effect_eq ▸ written.reached), ok_bind, time]
        by_cases small : appliedAtMs.toNat < 2 ^ 63
        · have timely : sqlCreationTime appliedAtMs = .ok (appliedAtMs.toNat : Int) :=
            if_pos small
          have late : decide ((appliedAtMs.toNat : Int) ≤ 0) = false := by
            rw [decide_eq_false_iff_not]
            intro zero
            exact positive (UInt64.toNat_inj.1 (by simpa using zero))
          have row : EffectRow.mk effectLedgerSchemaVersion 1 effect.operation.capability
              effect.operation.operation effect.idempotencyKey appliedAtMs.toNat
              (statusName effect.status) effect.toWire = .ofSnapshot snapshot := by
            rw [← named, EffectRow.ofSnapshot, time]
            rfl
          dsimp only [admits]
          rw [timely, ok_bind, ok_bind, late, untaken, unique, row]
          refine .ok ⟨rfl, holds.sqlite_add written bound ?_ (input ▸ given bound), rfl, rfl⟩
          rw [← effect_eq, time]
          exact small
        · have early : sqlCreationTime appliedAtMs =
              .error (.effect "Effect time exceeds SQLite") := if_neg small
          dsimp only [admits]
          rw [early]
          exact .error _

/-- **A load** is that of the ledger. -/
theorem loadAs_refines (holds : store.Holds held) :
    store.loadAs effectId authority = held.load effectId authority := by
  unfold loadAs EffectLedger.load
  cases access : validateAccess effectId authority with
  | error e => rfl
  | ok _ =>
    rw [ok_bind, ok_bind]
    cases store with
    | memory state => exact congrArg Except.ok (holds.keeps.1 _)
    | sqlite effects =>
      exact Rows.loadSnapshot holds.keeps holds.sound (validateAccess_eq_ok access).1 effectId

/-- A snapshot that takes the place of the one with its coordinate. -/
theorem Holds.memory_replace (holds : (memory state).Holds held) (kept : held key = some current)
    (written : snapshot.Sound key) (same : snapshot.coordinate = current.coordinate) :
    (memory { state with effects := state.effects.insert key snapshot }).Holds
      (Function.update held key (some snapshot)) := by
  obtain ⟨stored, indexes⟩ := holds.keeps
  refine ⟨holds.sound.write written fun k other found bound =>
    holds.sound.unique _ _ _ _ found kept (bound.trans same), fun k => ?_, ?_⟩
  · rw [congrFun (OrdMap.get?_insert state.effects _ _) k,
      show (fun k : StoreKey => state.effects[k]?) = held from funext stored]
  · exact indexes.replace kept same

theorem Holds.sqlite_replace (holds : (sqlite effects).Holds held) (kept : held key = some current)
    (written : snapshot.Sound key) (same : snapshot.coordinate = current.coordinate)
    (time : snapshot.effect.createdAtMs = current.effect.createdAtMs)
    (input : snapshot.effect.input = current.effect.input) :
    (sqlite (effects.insert key (.ofSnapshot snapshot))).Holds
      (Function.update held key (some snapshot)) := by
  have rows : Rows effects held := holds.keeps
  refine ⟨holds.sound.write written fun k other found bound =>
    holds.sound.unique _ _ _ _ found kept (bound.trans same), rows.insert ?_ ?_⟩
  · rw [time]
    exact rows.timely _ _ kept
  · rw [input]
    exact rows.exact _ _ kept

/-- What an accepted command leaves may be written in place of what it found. -/
theorem settled (sound : held.Sound)
    (kept : held (storageKey effectId authority.tenantId) = some current) {command : EffectCommand}
    {appliedAtMs : UInt64} {effect : Effect} {outcome : EffectApplyOutcome} {revision : UInt64}
    (unseen : current.effect.recognizesCommand command authority = .ok false)
    (accepted : current.effect.apply command appliedAtMs authority = .ok (effect, outcome))
    (counted : nextRevision current.revision = .ok revision) :
    EffectSnapshot.Sound ⟨effectId, current.tenantId, revision, effect⟩
        (storageKey effectId authority.tenantId) ∧
      EffectSnapshot.coordinate ⟨effectId, current.tenantId, revision, effect⟩ =
        current.coordinate ∧
      (effect.createdAtMs = current.effect.createdAtMs ∧ effect.input = current.effect.input) ∧
      EffectRow.ofSnapshot ⟨effectId, current.tenantId, revision, effect⟩ =
        { EffectRow.ofSnapshot current with
          revision := revision.toNat
          status := statusName effect.status
          effect := effect.toWire } := by
  have stored := sound.sound _ _ kept
  have named : effectId = current.id := congrArg StoreKey.id stored.key.symm
  rcases Effect.apply_eq_ok accepted with ⟨seen, _, _⟩ | ⟨_, _, t, status, extended, _⟩
  · rw [unseen] at seen
    cases seen
  · have written := applied_sound stored (.apply stored.reached accepted) extended counted
    rw [← named] at written
    refine ⟨written, ?_, ⟨?_, ?_⟩, ?_⟩
    all_goals
      rw [extended]
      rfl

/-- **A command** is that of the ledger. -/
theorem applyAs_refines (holds : store.Holds held) (expectedRevision : UInt64)
    (command : EffectCommand) (appliedAtMs : UInt64) :
    Alike store.Matches (store.applyAs effectId expectedRevision command appliedAtMs authority)
      (held.apply effectId expectedRevision command appliedAtMs authority) := by
  refine .shared _ fun _ access => .shared _ fun _ _ => ?_
  obtain ⟨tenant, _⟩ := validateAccess_eq_ok access
  cases store with
  | memory state =>
    obtain ⟨same, _⟩ := holds.keeps
    dsimp only
    rw [same]
    refine .shared _ fun current kept => .shared _ fun recognized unseen => ?_
    rw [orError_eq_ok] at kept
    cases recognized with
    | true => exact .ok ⟨rfl, holds, rfl, rfl⟩
    | false =>
      refine .shared _ fun _ _ => .shared _ fun result accepted =>
        .shared _ fun revision counted => ?_
      obtain ⟨written, coordinate, _, _⟩ := settled holds.sound kept unseen accepted counted
      refine .ok ⟨rfl, ?_, rfl, rfl⟩
      dsimp only
      rw [written.key]
      exact holds.memory_replace kept written coordinate
  | sqlite effects =>
    have rows : Rows effects held := holds.keeps
    dsimp only
    rw [rows.loadSnapshot holds.sound tenant, ok_bind]
    refine .shared _ fun current kept => .shared _ fun recognized unseen => ?_
    rw [orError_eq_ok] at kept
    cases recognized with
    | true => exact .ok ⟨rfl, holds, rfl, rfl⟩
    | false =>
      refine .shared _ fun _ _ => .shared _ fun result accepted =>
        .shared _ fun revision counted => ?_
      obtain ⟨effect, outcome⟩ := result
      obtain ⟨written, coordinate, ⟨time, input⟩, row⟩ :=
        settled holds.sound kept unseen accepted counted
      have stored := holds.sound.sound _ _ kept
      have selected : (effects[storageKey effectId authority.tenantId]?.filter fun row =>
          row.revision == (current.revision.toNat : Int)) = some (.ofSnapshot current) := by
        rw [rows.stored, kept, Option.map_some, Option.filter_some_pos]
        rw [beq_iff_eq]
        rfl
      dsimp only
      rw [encodeEffect_ok written.reached, ok_bind, sqlRevision_ok written.small.2, ok_bind,
        sqlRevision_ok stored.small.2, ok_bind, selected]
      dsimp only [orError]
      rw [ok_bind, ← row]
      refine .ok ⟨rfl, ?_, rfl, rfl⟩
      dsimp only
      rw [written.key]
      exact holds.sqlite_replace kept written coordinate time input

end EffectCoordinator

end Stores

end YHarness.Effects

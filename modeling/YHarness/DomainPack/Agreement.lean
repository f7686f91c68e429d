/-
# YHarness.DomainPack.Agreement -- the two stores of Domain Packs agree

`Mirrors` says that the SQLite tables hold the records of the catalog, each in the row
of its key.  Whatever is loaded passes the checks of a load (`loadRelease_eq`,
`loadActivation_eq`) and whatever is written passes those of a write, so that both
stores answer each call alike.  Rows are keyed by the text of a version: that different
versions have different texts is assumed of the version type.
-/
import YHarness.DomainPack.Runs

namespace YHarness.DomainPack

open YHarness.Lib YHarness.Kernel YHarness.Workflow

set_option autoImplicit false

section Stores

variable {V : Type} [SemVer V] [Sha256]

def DomainPackRelease.row (record : DomainPackRelease V) : ReleaseRow V :=
  ⟨record.revision.toNat, record⟩

def DomainPackActivation.row (activation : DomainPackActivation V) : ActivationRow V :=
  ⟨activation.revision.toNat, activation⟩

/-- The tables hold the records of a catalog, and no others. -/
structure Mirrors (state : CatalogState V) (store : SqliteDomainPackStore V) : Prop where
  releases : ∀ key : ReleaseKey V, validateTenant key.tenant = .ok () →
    store.releases[releaseRowKey key.tenant key.release]? =
      (state.releases[key]?).map DomainPackRelease.row
  releaseRows : ∀ (rowKey : ReleaseRowKey) row, store.releases[rowKey]? = some row →
    ∃ (key : ReleaseKey V) (record : DomainPackRelease V), state.releases[key]? = some record ∧
      rowKey = releaseRowKey key.tenant key.release
  activations : ∀ key : ActivationKey, validateTenant key.tenant = .ok () →
    store.activations[activationRowKey key.tenant key.name]? =
      (state.activations[key]?).map DomainPackActivation.row

/-! ## Columns -/

omit [SemVer V] [Sha256] in
theorem revisionToSql_eq_ok {revision : UInt64} (durable : revision.toNat < 2 ^ 63) :
    revisionToSql revision = .ok (revision.toNat : Int) :=
  i64TryFrom_eq_ok.2 ⟨durable, rfl⟩

omit [SemVer V] [Sha256] in
theorem DomainPackReleaseStage.number_le (stage : DomainPackReleaseStage) : stage.number ≤ 3 := by
  cases stage <;> simp [number]

variable {record : DomainPackRelease V}

theorem CatalogState.ReleaseSound.durable {key : ReleaseKey V}
    (sound : CatalogState.ReleaseSound key record) : record.revision.toNat < 2 ^ 63 := by
  have counted := sound.counted
  have few := record.stage.number_le
  omega

theorem encodedLen_of_valid (valid : validateRelease record = .ok ()) :
    record.toJson.encodedLen ≤ maxReleaseRecordBytes := by
  iterate 6 replace valid := rest_ok valid
  obtain ⟨_, sized⟩ := seq_eq_ok.1 valid
  rw [boundedJsonSize, rejectIf_decide, not_lt] at sized
  exact sized

omit [Sha256] in
theorem encodedLen_of_validActivation {activation : DomainPackActivation V}
    (valid : validateActivation activation = .ok ()) :
    activation.toJson.encodedLen ≤ maxActivationRecordBytes := by
  iterate 7 replace valid := rest_ok valid
  obtain ⟨_, sized⟩ := seq_eq_ok.1 valid
  rw [boundedJsonSize, rejectIf_decide, not_lt] at sized
  exact sized

omit [SemVer V] [Sha256] in
theorem boundedJsonSize_eq_ok {value : Json} {maximum : Nat} (sized : value.encodedLen ≤ maximum)
    (kind : String) : boundedJsonSize value maximum kind = .ok () := by
  rw [boundedJsonSize, rejectIf_decide, not_lt]
  exact sized

/-! ## Loads -/

section Loads

variable {state : CatalogState V} {store : SqliteDomainPackStore V}

variable {tenant : Option String}

theorem loadRelease_eq (sound : state.Sound) (mirrors : Mirrors state store)
    (valid : validateTenant tenant = .ok ()) (release : DomainPackReleaseId V) :
    store.loadRelease tenant release =
      .ok state.releases[(⟨tenant, release⟩ : ReleaseKey V)]? := by
  have row : store.releases[releaseRowKey tenant release]? = _ :=
    mirrors.releases ⟨tenant, release⟩ valid
  unfold SqliteDomainPackStore.loadRelease
  dsimp only
  rw [row]
  cases found : state.releases[(⟨tenant, release⟩ : ReleaseKey V)]? with
  | none => rfl
  | some record =>
    have known := sound.releases _ _ found
    have sized := encodedLen_of_valid known.valid
    refine seq_eq_ok.2 ⟨?_, bind_eq_ok.2 ⟨record.revision, ?_, seq_eq_ok.2 ⟨?_,
      seq_eq_ok.2 ⟨?_, rfl⟩⟩⟩⟩
    · rw [rejectIf_decide, not_lt]
      exact sized
    · exact u64TryFrom_toNat known.durable
    · exact mapError_eq_ok.2 known.valid
    · simp only [DomainPackRelease.row, known.tenantId, known.release, rejectIf_eq_ok,
        bne_self_eq_false, Bool.or_self]

omit [Sha256] in
theorem loadActivation_eq [Sha256] (sound : state.Sound) (mirrors : Mirrors state store)
    (valid : validateTenant tenant = .ok ()) (name : String) :
    store.loadActivation tenant name =
      .ok state.activations[(⟨tenant, name⟩ : ActivationKey)]? := by
  have row : store.activations[activationRowKey tenant name]? = _ :=
    mirrors.activations ⟨tenant, name⟩ valid
  unfold SqliteDomainPackStore.loadActivation
  dsimp only
  rw [row]
  cases found : state.activations[(⟨tenant, name⟩ : ActivationKey)]? with
  | none => rfl
  | some activation =>
    have known := sound.activations _ _ found
    have sized := encodedLen_of_validActivation known.valid
    refine seq_eq_ok.2 ⟨?_, bind_eq_ok.2 ⟨activation.revision, ?_, seq_eq_ok.2 ⟨?_,
      seq_eq_ok.2 ⟨?_, rfl⟩⟩⟩⟩
    · rw [rejectIf_decide, not_lt]
      exact sized
    · exact u64TryFrom_toNat known.durable
    · exact mapError_eq_ok.2 known.valid
    · simp only [DomainPackActivation.row, known.tenantId, known.name, rejectIf_eq_ok,
        bne_self_eq_false, Bool.or_self]

theorem releaseOf_eq (sound : state.Sound) (mirrors : Mirrors state store)
    (valid : validateTenant tenant = .ok ()) (release : DomainPackReleaseId V) :
    store.releaseOf tenant release = state.releaseOf tenant release := by
  rw [SqliteDomainPackStore.releaseOf, loadRelease_eq sound mirrors valid]
  rfl

theorem activationOf_eq (sound : state.Sound) (mirrors : Mirrors state store)
    (valid : validateTenant tenant = .ok ()) (name : String) :
    store.activationOf tenant name = state.activationOf tenant name := by
  rw [SqliteDomainPackStore.activationOf, loadActivation_eq sound mirrors valid]
  rfl

end Loads

/-! ## Writes -/

section Writes

variable {state : CatalogState V} {store : SqliteDomainPackStore V}

omit [Sha256] in
/-- Different keys have different rows, where versions have different texts. -/
theorem releaseRowKey_injective (faithful : Function.Injective (SemVer.display (V := V)))
    {left right : ReleaseKey V} (leftValid : validateTenant left.tenant = .ok ())
    (rightValid : validateTenant right.tenant = .ok ())
    (same : releaseRowKey left.tenant left.release = releaseRowKey right.tenant right.release) :
    left = right := by
  obtain ⟨tenant, name, version⟩ := left
  obtain ⟨tenant', name', version'⟩ := right
  obtain ⟨tenants, names, versions⟩ := ReleaseRowKey.mk.inj same
  obtain rfl : tenant = tenant' := tenantStorageKey_injective leftValid rightValid tenants
  obtain rfl : name = name' := names
  obtain rfl := faithful versions
  rfl

omit [SemVer V] [Sha256] in
theorem activationRowKey_injective {left right : ActivationKey}
    (leftValid : validateTenant left.tenant = .ok ())
    (rightValid : validateTenant right.tenant = .ok ())
    (same : activationRowKey left.tenant left.name = activationRowKey right.tenant right.name) :
    left = right := by
  obtain ⟨tenant, name⟩ := left
  obtain ⟨tenant', name'⟩ := right
  obtain ⟨tenants, names⟩ := StoreKey.mk.inj same
  obtain rfl : tenant = tenant' := tenantStorageKey_injective leftValid rightValid tenants
  obtain rfl : name = name' := names
  rfl

omit [Sha256] in
theorem Mirrors.insertRelease (faithful : Function.Injective (SemVer.display (V := V)))
    (mirrors : Mirrors state store) {key : ReleaseKey V} {record : DomainPackRelease V}
    (valid : validateTenant key.tenant = .ok ()) :
    Mirrors { state with releases := state.releases.insert key record }
      { store with
        releases := store.releases.insert (releaseRowKey key.tenant key.release) record.row } where
  releases other otherValid := by
    dsimp only
    by_cases same : key = other
    · subst same
      rw [OrdMap.get?_insert_self, OrdMap.get?_insert_self]
      rfl
    · rw [OrdMap.get?_insert_of_ne _ _ same, OrdMap.get?_insert_of_ne]
      · exact mirrors.releases other otherValid
      · exact fun rows => same (releaseRowKey_injective faithful valid otherValid rows)
  releaseRows rowKey row found := by
    dsimp only at found
    by_cases same : releaseRowKey key.tenant key.release = rowKey
    · exact ⟨key, record, OrdMap.get?_insert_self .., same.symm⟩
    · rw [OrdMap.get?_insert_of_ne _ _ same] at found
      obtain ⟨held, current, holds, rfl⟩ := mirrors.releaseRows rowKey row found
      have other : key ≠ held := fun keys => same (by rw [keys])
      exact ⟨held, current, (OrdMap.get?_insert_of_ne _ _ other).trans holds, rfl⟩
  activations := mirrors.activations

omit [Sha256] in
theorem Mirrors.insertActivation (mirrors : Mirrors state store) {key : ActivationKey}
    {activation : DomainPackActivation V} (valid : validateTenant key.tenant = .ok ()) :
    Mirrors { state with activations := state.activations.insert key activation }
      { store with
        activations := store.activations.insert (activationRowKey key.tenant key.name)
          activation.row } where
  releases := mirrors.releases
  releaseRows := mirrors.releaseRows
  activations other otherValid := by
    dsimp only
    by_cases same : key = other
    · subst same
      rw [OrdMap.get?_insert_self, OrdMap.get?_insert_self]
      rfl
    · rw [OrdMap.get?_insert_of_ne _ _ same, OrdMap.get?_insert_of_ne]
      · exact mirrors.activations other otherValid
      · exact fun rows => same (activationRowKey_injective valid otherValid rows)

/-- The rows that count against one Pack. -/
def rowOfPack (tenant : Option String) (name : String) (row : ReleaseRowKey) : Bool :=
  row.tenantKey == tenantKey tenant && row.name == name

/-- **The releases of a Pack are counted alike.** -/
theorem enforceReleaseCount_eq (faithful : Function.Injective (SemVer.display (V := V)))
    (sound : state.Sound) (mirrors : Mirrors state store) {tenant : Option String}
    (valid : validateTenant tenant = .ok ()) (name : String) :
    store.enforceReleaseCount tenant name = state.enforceReleaseCount tenant name := by
  have count : (state.releases.toList.filter fun entry =>
        CatalogState.ofPack tenant name entry.1).length =
      (store.releases.toList.filter fun entry => rowOfPack tenant name entry.1).length := by
    refine OrdMap.length_filter_eq (fun key : ReleaseKey V => releaseRowKey key.tenant key.release)
      ?_ ?_ ?_
    · intro left leftHeld right rightHeld
      obtain ⟨⟨record, found⟩, _⟩ := OrdMap.mem_keysOf.1 leftHeld
      obtain ⟨⟨record', found'⟩, _⟩ := OrdMap.mem_keysOf.1 rightHeld
      exact releaseRowKey_injective faithful (sound.releases _ _ found).tenant
        (sound.releases _ _ found').tenant
    · intro key held
      obtain ⟨⟨record, found⟩, kept⟩ := OrdMap.mem_keysOf.1 held
      refine OrdMap.mem_keysOf.2 ⟨⟨record.row, ?_⟩, ?_⟩
      · rw [mirrors.releases key (sound.releases key record found).tenant, found]
        rfl
      · rw [CatalogState.ofPack, Bool.and_eq_true, beq_iff_eq, beq_iff_eq] at kept
        rw [rowOfPack, Bool.and_eq_true, beq_iff_eq, beq_iff_eq]
        exact ⟨congrArg tenantKey kept.1, kept.2⟩
    · intro rowKey held
      obtain ⟨⟨row, found⟩, kept⟩ := OrdMap.mem_keysOf.1 held
      obtain ⟨key, record, holds, rfl⟩ := mirrors.releaseRows rowKey row found
      rw [rowOfPack, Bool.and_eq_true, beq_iff_eq, beq_iff_eq] at kept
      have same : key.tenant = tenant :=
        tenantStorageKey_injective (sound.releases key record holds).tenant valid kept.1
      refine ⟨key, OrdMap.mem_keysOf.2 ⟨⟨record, holds⟩, ?_⟩, rfl⟩
      rw [CatalogState.ofPack, Bool.and_eq_true, beq_iff_eq, beq_iff_eq]
      exact ⟨same, kept.2⟩
  rw [CatalogState.enforceReleaseCount, count]
  rfl

variable {record : DomainPackRelease V}

/-- A record that may be written. -/
theorem encodeRelease_eq_ok (valid : validateRelease record = .ok ()) :
    SqliteDomainPackStore.encodeRelease record = .ok () :=
  seq_eq_ok.2 ⟨valid, boundedJsonSize_eq_ok (encodedLen_of_valid valid) _⟩

theorem insertRelease_eq_ok (mirrors : Mirrors state store) {key : ReleaseKey V}
    (sound : CatalogState.ReleaseSound key record) (free : state.releases[key]? = none) :
    store.insertRelease record = .ok { store with
      releases := store.releases.insert (releaseRowKey key.tenant key.release) record.row } := by
  have row : store.releases[releaseRowKey key.tenant key.release]? = none := by
    rw [mirrors.releases key sound.tenant, free]
    rfl
  have unused : store.releases.contains (releaseRowKey key.tenant key.release) = false := by
    rw [← Std.ExtTreeMap.isSome_getElem?_eq_contains, row]
    rfl
  refine seq_eq_ok.2 ⟨sound.valid, seq_eq_ok.2 ⟨encodeRelease_eq_ok sound.valid,
    bind_eq_ok.2 ⟨_, revisionToSql_eq_ok sound.durable, ?_⟩⟩⟩
  rw [sound.tenantId, sound.release]
  exact seq_eq_ok.2 ⟨rejectIf_eq_ok.2 unused, rfl⟩

omit [Sha256] in
/-- An activation that may be written over what is there. -/
theorem writeActivation_eq_ok (mirrors : Mirrors state store) {key : ActivationKey}
    {activation : DomainPackActivation V} (tenant : validateTenant key.tenant = .ok ())
    (tenantId : activation.tenantId = key.tenant) (name : activation.name = key.name)
    (valid : validateActivation activation = .ok ()) (durable : activation.revision.toNat < 2 ^ 63)
    (follows : ∀ current, state.activations[key]? = some current → current = activation ∨
      activation.revision.toNat = current.revision.toNat + 1) :
    store.writeActivation activation = .ok { store with
      activations := store.activations.insert (activationRowKey key.tenant key.name)
        activation.row } := by
  refine seq_eq_ok.2 ⟨valid, seq_eq_ok.2
    ⟨boundedJsonSize_eq_ok (encodedLen_of_validActivation valid) _,
      bind_eq_ok.2 ⟨_, revisionToSql_eq_ok durable, ?_⟩⟩⟩
  dsimp only
  rw [tenantId, name, mirrors.activations key tenant]
  cases found : state.activations[key]? with
  | none => rfl
  | some current =>
    rcases follows current found with rfl | counted
    · simp [DomainPackActivation.row]
    · have next : (current.revision.toNat : Int) + 1 = activation.revision.toNat := by omega
      simp [DomainPackActivation.row, next]

omit [Sha256] in
theorem writeActivation_replaces (mirrors : Mirrors state store) {key : ActivationKey}
    {activation : DomainPackActivation V} {expected : UInt64}
    {target : Option (DomainPackReleaseId V)} (tenant : validateTenant key.tenant = .ok ())
    (replaces : Replaces expected state.activations[key]? key.tenant key.name target activation) :
    store.writeActivation activation = .ok { store with
      activations := store.activations.insert (activationRowKey key.tenant key.name)
        activation.row } := by
  refine writeActivation_eq_ok mirrors tenant replaces.tenantId replaces.name replaces.valid
    replaces.durable fun current found => .inr ?_
  have expected := replaces.expected
  rw [found] at expected
  rw [replaces.counted, ← expected]
  rfl

end Writes

/-! ## One call -/

section Calls

variable {state : CatalogState V} {store : SqliteDomainPackStore V} {authority : AuthorityContext}

/-- One result, and tables that hold the records of the catalog. -/
def AgreeOn {α : Type} (left : α × CatalogState V) (right : α × SqliteDomainPackStore V) : Prop :=
  left.1 = right.1 ∧ Mirrors left.2 right.2

omit [Sha256] in
theorem alike_answered {α : Type} {x : Except DomainPackError (α × CatalogState V)}
    {y : Except DomainPackError (α × SqliteDomainPackStore V)} (wrap : α → DomainPackAnswer V)
    (alike : Alike AgreeOn x y) :
    Alike AgreeOn (x >>= fun result => .ok (wrap result.1, result.2))
      (y >>= fun result => .ok (wrap result.1, result.2)) :=
  alike.bind fun _ _ agree => .ok ⟨congrArg wrap agree.1, agree.2⟩

theorem install_alike (faithful : Function.Injective (SemVer.display (V := V)))
    (sound : state.Sound) (mirrors : Mirrors state store) (snapshot : DomainPackSnapshot V)
    (now : Clock) :
    Alike AgreeOn (state.install snapshot authority now) (store.install snapshot authority now) := by
  refine .shared _ fun tenant validated => .shared _ fun _ _ => ?_
  obtain ⟨rfl, valid, built⟩ := validatedTenant_eq_ok validated
  dsimp only
  rw [loadRelease_eq sound mirrors valid, ok_bind]
  cases found : state.releases[(⟨authority.tenantId, snapshot.release⟩ : ReleaseKey V)]? with
  | some existing => exact .shared _ fun _ _ => .ok ⟨rfl, mirrors⟩
  | none =>
    dsimp only
    rw [enforceReleaseCount_eq faithful sound mirrors valid]
    refine .shared _ fun _ _ => .extra built (.shared _ fun record made => ?_)
    obtain ⟨tenantId, rfl, stage, first, checked⟩ := installedRelease_eq_ok made
    have written : CatalogState.ReleaseSound
        (⟨authority.tenantId, record.snapshot.release⟩ : ReleaseKey V) record :=
      .installed valid tenantId rfl stage first checked
    exact .extra (insertRelease_eq_ok mirrors written found)
      (.ok ⟨rfl, mirrors.insertRelease faithful valid⟩)

/-- The two calls that move a release: `mutate_release` asks for the revision before the
transition does so again. -/
theorem mutateRelease_alike (faithful : Function.Injective (SemVer.display (V := V)))
    (sound : state.Sound) (mirrors : Mirrors state store) (release : DomainPackReleaseId V)
    {expected : UInt64} (advance : DomainPackRelease V → AuthorityContext →
      Except DomainPackError (DomainPackRelease V))
    {rest : DomainPackRelease V → AuthorityContext → Except DomainPackError (DomainPackRelease V)}
    (fenced : ∀ record authority, advance record authority = do
      requireRevision record.snapshot.release.label record.revision expected
      rest record authority)
    (advances : ∀ record authority next, advance record authority = .ok next →
      Advances expected record next) :
    Alike AgreeOn
      (do
        let tenant ← validatedTenant authority
        let candidate ← state.releaseOf tenant release
        let record ← advance candidate authority
        .ok (record, { state with releases := state.releases.insert ⟨tenant, release⟩ record }))
      (do
        let tenant ← validatedTenant authority
        store.mutateRelease tenant release expected authority.actor advance) := by
  refine .shared _ fun tenant validated => ?_
  obtain ⟨rfl, valid, built⟩ := validatedTenant_eq_ok validated
  unfold SqliteDomainPackStore.mutateRelease
  rw [releaseOf_eq sound mirrors valid]
  refine .shared _ fun before found => ?_
  have held := CatalogState.releaseOf_eq_ok.1 found
  have known := sound.releases _ before held
  cases asked : requireRevision release.label before.revision expected with
  | error e =>
    rw [fenced, known.release, asked]
    exact .error e
  | ok _ =>
    refine .extra rfl (.extra built (.shared _ fun record made => ?_))
    have moved := advances before authority record made
    have counted := moved.counted
    have durable := known.durable
    have few := known.counted ▸ before.stage.number_le
    refine .extra (encodeRelease_eq_ok moved.valid) (.extra (revisionToSql_eq_ok (by omega))
      (.extra (revisionToSql_eq_ok durable) ?_))
    have row : store.releases[releaseRowKey authority.tenantId release]? = some before.row := by
      have mirrored := mirrors.releases ⟨authority.tenantId, release⟩ valid
      rw [held] at mirrored
      exact mirrored
    dsimp only
    rw [moved.tenantId, moved.snapshot, known.tenantId, known.release, row]
    have same : (some before.row).filter (fun row : ReleaseRow V =>
        row.revision == (before.revision.toNat : Int)) = some before.row := by
      simp [DomainPackRelease.row]
    rw [same]
    exact .ok ⟨rfl, mirrors.insertRelease faithful valid⟩

theorem bind_alike (sound : state.Sound) (mirrors : Mirrors state store)
    (verified : VerifiedDomainPack V) (expected : UInt64) :
    state.bind verified expected authority = store.bind verified expected authority := by
  unfold CatalogState.bind SqliteDomainPackStore.bind
  cases validated : validatedTenant authority with
  | error e => rfl
  | ok tenant =>
    obtain ⟨rfl, valid, _⟩ := validatedTenant_eq_ok validated
    rw [ok_bind, ok_bind, releaseOf_eq sound mirrors valid, activationOf_eq sound mirrors valid]

theorem activate_alike (sound : state.Sound) (mirrors : Mirrors state store)
    (verified : VerifiedDomainPack V) (expected : UInt64) (now : Clock) :
    Alike AgreeOn (state.activate verified expected authority now)
      (store.activate verified expected authority now) := by
  refine .shared _ fun tenant validated => ?_
  obtain ⟨rfl, valid, built⟩ := validatedTenant_eq_ok validated
  rw [releaseOf_eq sound mirrors valid]
  refine .shared _ fun _ _ => .shared _ fun _ _ => ?_
  dsimp only
  rw [loadActivation_eq sound mirrors valid, ok_bind]
  refine .extra built (.shared _ fun activation made => ?_)
  rcases activateRelease_eq_ok made with ⟨held, _⟩ | replaces
  · have known := sound.activations _ _ held
    refine .extra (writeActivation_eq_ok mirrors valid known.tenantId known.name known.valid
      known.durable fun current found => .inl ?_) (.ok ⟨rfl, mirrors.insertActivation valid⟩)
    rw [held] at found
    cases found
    rfl
  · exact .extra (writeActivation_replaces mirrors valid replaces)
      (.ok ⟨rfl, mirrors.insertActivation valid⟩)

theorem deactivate_alike (sound : state.Sound) (mirrors : Mirrors state store) (name : String)
    (expected : UInt64) (now : Clock) :
    Alike AgreeOn (state.deactivate name expected authority now)
      (store.deactivate name expected authority now) := by
  refine .shared _ fun tenant validated => ?_
  obtain ⟨rfl, valid, built⟩ := validatedTenant_eq_ok validated
  rw [activationOf_eq sound mirrors valid]
  refine .shared _ fun current held => .extra built (.shared _ fun activation made => ?_)
  have found := CatalogState.activationOf_eq_ok.1 held
  have replaces := deactivateRelease_eq_ok made
  have known := sound.activations _ _ found
  rw [← found, known.tenantId, known.name] at replaces
  exact .extra (writeActivation_replaces mirrors valid replaces)
    (.ok ⟨rfl, mirrors.insertActivation valid⟩)

theorem rollback_alike (sound : state.Sound) (mirrors : Mirrors state store)
    (verified : VerifiedDomainPack V) (expected : UInt64) (now : Clock) :
    Alike AgreeOn (state.rollback verified expected authority now)
      (store.rollback verified expected authority now) := by
  refine .shared _ fun tenant validated => ?_
  obtain ⟨rfl, valid, built⟩ := validatedTenant_eq_ok validated
  rw [releaseOf_eq sound mirrors valid, activationOf_eq sound mirrors valid]
  refine .shared _ fun _ _ => .shared _ fun _ _ => .shared _ fun current held =>
    .extra built (.shared _ fun activation made => ?_)
  have found := CatalogState.activationOf_eq_ok.1 held
  have replaces := rollbackRelease_eq_ok made
  have known := sound.activations _ _ found
  rw [← found, known.tenantId, known.name] at replaces
  exact .extra (writeActivation_replaces mirrors valid replaces)
    (.ok ⟨rfl, mirrors.insertActivation valid⟩)

/-- **Both stores answer a call alike.** -/
theorem call_alike (faithful : Function.Injective (SemVer.display (V := V)))
    (sound : state.Sound) (mirrors : Mirrors state store) (c : DomainPackCall V) :
    Alike AgreeOn (state.call c) (store.call c) := by
  cases c with
  | install snapshot authority now =>
    exact alike_answered .release (install_alike faithful sound mirrors snapshot now)
  | get release authority =>
    refine .bind (Q := Eq) ?_ fun found _ agree =>
      .ok ⟨congrArg DomainPackAnswer.foundRelease agree, mirrors⟩
    refine .shared _ fun tenant validated => .shared _ fun _ _ => ?_
    obtain ⟨rfl, valid, _⟩ := validatedTenant_eq_ok validated
    rw [loadRelease_eq sound mirrors valid]
    exact .ok rfl
  | evaluate release expected suite report passed authority now =>
    exact alike_answered .release (mutateRelease_alike faithful sound mirrors release
      (fun record authority =>
        evaluateRelease record expected suite report passed authority now)
      (fun _ _ => rfl) fun _ _ _ evaluated => (evaluateRelease_eq_ok evaluated).1)
  | approve release expected evidence authority now =>
    exact alike_answered .release (mutateRelease_alike faithful sound mirrors release
      (fun record authority => approveRelease record expected evidence authority now)
      (fun _ _ => rfl) fun _ _ _ approved => (approveRelease_eq_ok approved).1)
  | activation name authority =>
    refine .bind (Q := Eq) ?_ fun found _ agree =>
      .ok ⟨congrArg DomainPackAnswer.foundActivation agree, mirrors⟩
    refine .shared _ fun tenant validated => .shared _ fun _ _ => ?_
    obtain ⟨rfl, valid, _⟩ := validatedTenant_eq_ok validated
    rw [loadActivation_eq sound mirrors valid]
    exact .ok rfl
  | bind verified expected authority =>
    show Alike _ (state.bind verified expected authority >>= _) _
    rw [bind_alike sound mirrors]
    exact .shared _ fun _ _ => .ok ⟨rfl, mirrors⟩
  | activate verified expected authority now =>
    exact alike_answered .activation (activate_alike sound mirrors verified expected now)
  | deactivate name expected authority now =>
    exact alike_answered .activation (deactivate_alike sound mirrors name expected now)
  | rollback verified expected authority now =>
    exact alike_answered .activation (rollback_alike sound mirrors verified expected now)

end Calls

end Stores

end YHarness.DomainPack

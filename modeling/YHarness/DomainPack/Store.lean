/-
# YHarness.DomainPack.Store -- the stores of Domain Packs

The in-memory and the SQLite store of `control/domain-pack/src/store.rs`.  Every call
holds the lock of the catalog, or runs in one transaction that an error rolls back, so
a run of a store is a sequence of calls.  A row holds its revision and what its JSON
text says.
-/
import YHarness.Kernel.Storage
import YHarness.DomainPack.Lifecycle
import YHarness.Lib.CommandLedger

namespace YHarness.DomainPack

open YHarness.Lib YHarness.Kernel YHarness.Workflow

set_option autoImplicit false

/-! ## Keys -/

structure ReleaseKey (V : Type) where
  tenant : Option String
  release : DomainPackReleaseId V
deriving DecidableEq

structure ActivationKey where
  tenant : Option String
  name : String
deriving DecidableEq

/-- The primary key of a release row. -/
structure ReleaseRowKey where
  tenantKey : String
  name : String
  version : String
deriving DecidableEq

section Order

attribute [local instance] lexOrd

variable {V : Type} [SemVer V]

/-- The fields of a key, the most significant first. -/
abbrev ReleaseKey.fields (key : ReleaseKey V) : Option String × String × V :=
  (key.tenant, key.release.name, key.release.version)

instance : Ord (ReleaseKey V) where
  compare := compareOn ReleaseKey.fields

instance : Std.TransOrd (ReleaseKey V) :=
  inferInstanceAs (Std.TransCmp (compareOn ReleaseKey.fields))

instance : Std.LawfulEqOrd (ReleaseKey V) where
  eq_of_compare {left right} same := by
    have fields : left.fields = right.fields :=
      Std.compare_eq_iff_eq.1 (show compare left.fields right.fields = .eq from same)
    obtain ⟨tenant, name, version⟩ := left
    obtain ⟨tenant', name', version'⟩ := right
    simp_all [ReleaseKey.fields]

abbrev ActivationKey.fields (key : ActivationKey) : Option String × String :=
  (key.tenant, key.name)

instance : Ord ActivationKey where
  compare := compareOn ActivationKey.fields

instance : Std.TransOrd ActivationKey :=
  inferInstanceAs (Std.TransCmp (compareOn ActivationKey.fields))

instance : Std.LawfulEqOrd ActivationKey where
  eq_of_compare {left right} same := by
    have fields : left.fields = right.fields :=
      Std.compare_eq_iff_eq.1 (show compare left.fields right.fields = .eq from same)
    cases left
    cases right
    simp_all [ActivationKey.fields]

abbrev ReleaseRowKey.fields (key : ReleaseRowKey) : String × String × String :=
  (key.tenantKey, key.name, key.version)

instance : Ord ReleaseRowKey where
  compare := compareOn ReleaseRowKey.fields

instance : Std.TransOrd ReleaseRowKey :=
  inferInstanceAs (Std.TransCmp (compareOn ReleaseRowKey.fields))

instance : Std.LawfulEqOrd ReleaseRowKey where
  eq_of_compare {left right} same := by
    have fields : left.fields = right.fields :=
      Std.compare_eq_iff_eq.1 (show compare left.fields right.fields = .eq from same)
    cases left
    cases right
    simp_all [ReleaseRowKey.fields]

end Order

/-! ## Calls -/

section Stores

variable {V : Type} [SemVer V] [Sha256]

variable (V) in
/-- A call on a Domain Pack store, with the clock it may read. -/
inductive DomainPackCall where
  | install (snapshot : DomainPackSnapshot V) (authority : AuthorityContext) (now : Clock)
  | get (release : DomainPackReleaseId V) (authority : AuthorityContext)
  | evaluate (release : DomainPackReleaseId V) (expectedRevision : UInt64)
      (suiteSha256 reportSha256 : String) (passed : Bool) (authority : AuthorityContext)
      (now : Clock)
  | approve (release : DomainPackReleaseId V) (expectedRevision : UInt64)
      (evidenceSha256 : String) (authority : AuthorityContext) (now : Clock)
  | activation (name : String) (authority : AuthorityContext)
  | bind (verified : VerifiedDomainPack V) (expectedActivationRevision : UInt64)
      (authority : AuthorityContext)
  | activate (verified : VerifiedDomainPack V) (expectedRevision : UInt64)
      (authority : AuthorityContext) (now : Clock)
  | deactivate (name : String) (expectedRevision : UInt64) (authority : AuthorityContext)
      (now : Clock)
  | rollback (verified : VerifiedDomainPack V) (expectedRevision : UInt64)
      (authority : AuthorityContext) (now : Clock)

variable (V) in
inductive DomainPackAnswer where
  | release (record : DomainPackRelease V)
  | foundRelease (record : Option (DomainPackRelease V))
  | activation (activation : DomainPackActivation V)
  | foundActivation (activation : Option (DomainPackActivation V))
  | bound (binding : DomainPackExecutionBinding V)

/-! ## The in-memory store -/

variable (V) in
structure CatalogState where
  releases : OrdMap (ReleaseKey V) (DomainPackRelease V)
  activations : OrdMap ActivationKey (DomainPackActivation V)

namespace CatalogState

def empty : CatalogState V :=
  ⟨∅, ∅⟩

def exceedsReleases (name : String) : DomainPackError :=
  .invalid s!"Domain Pack {name} exceeds {maxReleasesPerPack} installed releases"

/-- The keys that count against one Pack. -/
def ofPack (tenant : Option String) (name : String) (key : ReleaseKey V) : Bool :=
  key.tenant == tenant && key.release.name == name

def enforceReleaseCount (state : CatalogState V) (tenant : Option String) (name : String) :
    Except DomainPackError Unit :=
  rejectIf (decide (maxReleasesPerPack ≤
    (state.releases.toList.filter fun entry => ofPack tenant name entry.1).length))
    (exceedsReleases name)

def install (state : CatalogState V) (snapshot : DomainPackSnapshot V)
    (authority : AuthorityContext) (now : Clock) :
    Except DomainPackError (DomainPackRelease V × CatalogState V) := do
  let tenant ← validatedTenant authority
  snapshot.validate
  let key : ReleaseKey V := ⟨tenant, snapshot.release⟩
  match state.releases[key]? with
  | some existing => do
    let record ← sameInstall existing snapshot
    .ok (record, state)
  | none => do
    state.enforceReleaseCount tenant snapshot.release.name
    let record ← installedRelease snapshot tenant authority now
    .ok (record, { state with releases := state.releases.insert key record })

def get (state : CatalogState V) (release : DomainPackReleaseId V)
    (authority : AuthorityContext) : Except DomainPackError (Option (DomainPackRelease V)) := do
  let tenant ← validatedTenant authority
  release.validate
  let key : ReleaseKey V := ⟨tenant, release⟩
  .ok state.releases[key]?

/-- The release that a call names, in the partition of its caller. -/
def releaseOf (state : CatalogState V) (tenant : Option String) (release : DomainPackReleaseId V) :
    Except DomainPackError (DomainPackRelease V) :=
  let key : ReleaseKey V := ⟨tenant, release⟩
  orError (.notFound release.label) state.releases[key]?

def evaluate (state : CatalogState V) (release : DomainPackReleaseId V)
    (expectedRevision : UInt64) (suiteSha256 reportSha256 : String) (passed : Bool)
    (authority : AuthorityContext) (now : Clock) :
    Except DomainPackError (DomainPackRelease V × CatalogState V) := do
  let tenant ← validatedTenant authority
  let candidate ← state.releaseOf tenant release
  let record ← evaluateRelease candidate expectedRevision suiteSha256 reportSha256 passed
    authority now
  .ok (record, { state with releases := state.releases.insert ⟨tenant, release⟩ record })

def approve (state : CatalogState V) (release : DomainPackReleaseId V)
    (expectedRevision : UInt64) (evidenceSha256 : String) (authority : AuthorityContext)
    (now : Clock) : Except DomainPackError (DomainPackRelease V × CatalogState V) := do
  let tenant ← validatedTenant authority
  let candidate ← state.releaseOf tenant release
  let record ← approveRelease candidate expectedRevision evidenceSha256 authority now
  .ok (record, { state with releases := state.releases.insert ⟨tenant, release⟩ record })

def activation (state : CatalogState V) (name : String) (authority : AuthorityContext) :
    Except DomainPackError (Option (DomainPackActivation V)) := do
  let tenant ← validatedTenant authority
  validatePackName name
  let key : ActivationKey := ⟨tenant, name⟩
  .ok state.activations[key]?

/-- The activation of a Pack, in the partition of its caller. -/
def activationOf (state : CatalogState V) (tenant : Option String) (name : String) :
    Except DomainPackError (DomainPackActivation V) :=
  let key : ActivationKey := ⟨tenant, name⟩
  orError (.notFound name) state.activations[key]?

def bind (state : CatalogState V) (verified : VerifiedDomainPack V)
    (expectedActivationRevision : UInt64) (authority : AuthorityContext) :
    Except DomainPackError (DomainPackExecutionBinding V) := do
  let tenant ← validatedTenant authority
  let release ← state.releaseOf tenant verified.snapshot.release
  let activation ← state.activationOf tenant verified.snapshot.release.name
  bindExecution release activation verified expectedActivationRevision tenant

def activate (state : CatalogState V) (verified : VerifiedDomainPack V)
    (expectedRevision : UInt64) (authority : AuthorityContext) (now : Clock) :
    Except DomainPackError (DomainPackActivation V × CatalogState V) := do
  let tenant ← validatedTenant authority
  let release ← state.releaseOf tenant verified.snapshot.release
  requireActivatable release verified
  let key : ActivationKey := ⟨tenant, verified.snapshot.release.name⟩
  let activation ← activateRelease state.activations[key]? verified expectedRevision tenant
    authority now
  .ok (activation, { state with activations := state.activations.insert key activation })

def deactivate (state : CatalogState V) (name : String) (expectedRevision : UInt64)
    (authority : AuthorityContext) (now : Clock) :
    Except DomainPackError (DomainPackActivation V × CatalogState V) := do
  let tenant ← validatedTenant authority
  let current ← state.activationOf tenant name
  let activation ← deactivateRelease current expectedRevision authority now
  .ok (activation, { state with activations := state.activations.insert ⟨tenant, name⟩ activation })

def rollback (state : CatalogState V) (verified : VerifiedDomainPack V)
    (expectedRevision : UInt64) (authority : AuthorityContext) (now : Clock) :
    Except DomainPackError (DomainPackActivation V × CatalogState V) := do
  let tenant ← validatedTenant authority
  let release ← state.releaseOf tenant verified.snapshot.release
  requireActivatable release verified
  let current ← state.activationOf tenant verified.snapshot.release.name
  let activation ← rollbackRelease current verified expectedRevision authority now
  .ok (activation, { state with
    activations := state.activations.insert ⟨tenant, verified.snapshot.release.name⟩ activation })

/-- The answer to a call and the catalog after it. -/
def call (state : CatalogState V) :
    DomainPackCall V → Except DomainPackError (DomainPackAnswer V × CatalogState V)
  | .install snapshot authority now => do
    let (record, next) ← state.install snapshot authority now
    .ok (.release record, next)
  | .get release authority => do
    let found ← state.get release authority
    .ok (.foundRelease found, state)
  | .evaluate release expected suite report passed authority now => do
    let (record, next) ← state.evaluate release expected suite report passed authority now
    .ok (.release record, next)
  | .approve release expected evidence authority now => do
    let (record, next) ← state.approve release expected evidence authority now
    .ok (.release record, next)
  | .activation name authority => do
    let found ← state.activation name authority
    .ok (.foundActivation found, state)
  | .bind verified expected authority => do
    let binding ← state.bind verified expected authority
    .ok (.bound binding, state)
  | .activate verified expected authority now => do
    let (activation, next) ← state.activate verified expected authority now
    .ok (.activation activation, next)
  | .deactivate name expected authority now => do
    let (activation, next) ← state.deactivate name expected authority now
    .ok (.activation activation, next)
  | .rollback verified expected authority now => do
    let (activation, next) ← state.rollback verified expected authority now
    .ok (.activation activation, next)

end CatalogState

/-! ## The SQLite store -/

/-- `tenant_key`. -/
def tenantKey (tenant : Option String) : String :=
  tenant.getD ""

def releaseRowKey (tenant : Option String) (release : DomainPackReleaseId V) : ReleaseRowKey :=
  ⟨tenantKey tenant, release.name, SemVer.display release.version⟩

def activationRowKey (tenant : Option String) (name : String) : StoreKey :=
  ⟨tenantKey tenant, name⟩

def revisionToSql (revision : UInt64) : Except DomainPackError Int :=
  i64TryFrom exceedsDurable revision

def revisionFromSql (revision : Int) (kind : String) : Except DomainPackError UInt64 :=
  u64TryFrom (.storage s!"SQLite Domain Pack {kind} revision is corrupt") revision

def corruptedRelease : DomainPackError :=
  .storage "SQLite Domain Pack release is corrupt"

def corruptedActivation : DomainPackError :=
  .storage "SQLite Domain Pack activation is corrupt"

variable (V) in
/-- A row of `domain_pack_releases`; its body is what the JSON text says. -/
structure ReleaseRow where
  revision : Int
  body : DomainPackRelease V

variable (V) in
structure ActivationRow where
  revision : Int
  body : DomainPackActivation V

variable (V) in
structure SqliteDomainPackStore where
  releases : OrdMap ReleaseRowKey (ReleaseRow V)
  activations : OrdMap StoreKey (ActivationRow V)

namespace SqliteDomainPackStore

def empty : SqliteDomainPackStore V :=
  ⟨∅, ∅⟩

def loadRelease (store : SqliteDomainPackStore V) (tenant : Option String)
    (release : DomainPackReleaseId V) :
    Except DomainPackError (Option (DomainPackRelease V)) :=
  let key := releaseRowKey tenant release
  match store.releases[key]? with
  | none => .ok none
  | some row => do
    rejectIf (decide (maxReleaseRecordBytes < row.body.toJson.encodedLen))
      (.storage "SQLite Domain Pack release body exceeds its bound")
    let projected ← revisionFromSql row.revision "release"
    (validateRelease row.body).mapError fun _ => corruptedRelease
    rejectIf (row.body.tenantId != tenant || row.body.snapshot.release != release ||
      row.body.revision != projected) corruptedRelease
    .ok (some row.body)

def loadActivation (store : SqliteDomainPackStore V) (tenant : Option String) (name : String) :
    Except DomainPackError (Option (DomainPackActivation V)) :=
  let key := activationRowKey tenant name
  match store.activations[key]? with
  | none => .ok none
  | some row => do
    rejectIf (decide (maxActivationRecordBytes < row.body.toJson.encodedLen))
      (.storage "SQLite Domain Pack activation body exceeds its bound")
    let projected ← revisionFromSql row.revision "activation"
    (validateActivation row.body).mapError fun _ => corruptedActivation
    rejectIf (row.body.tenantId != tenant || row.body.name != name ||
      row.body.revision != projected) corruptedActivation
    .ok (some row.body)

def encodeRelease (record : DomainPackRelease V) : Except DomainPackError Unit := do
  validateRelease record
  boundedJsonSize record.toJson maxReleaseRecordBytes "Domain Pack release"

/-- `insert_release`; the key of the row is the primary key. -/
def insertRelease (store : SqliteDomainPackStore V) (record : DomainPackRelease V) :
    Except DomainPackError (SqliteDomainPackStore V) := do
  validateRelease record
  encodeRelease record
  let revision ← revisionToSql record.revision
  let key := releaseRowKey record.tenantId record.snapshot.release
  rejectIf (store.releases.contains key) (.storage "SQLite operation failed")
  .ok { store with releases := store.releases.insert key ⟨revision, record⟩ }

def enforceReleaseCount (store : SqliteDomainPackStore V) (tenant : Option String)
    (name : String) : Except DomainPackError Unit :=
  rejectIf (decide (maxReleasesPerPack ≤ (store.releases.toList.filter fun entry =>
      entry.1.tenantKey == tenantKey tenant && entry.1.name == name).length))
    (CatalogState.exceedsReleases name)

/-- The release that a call names. -/
def releaseOf (store : SqliteDomainPackStore V) (tenant : Option String)
    (release : DomainPackReleaseId V) : Except DomainPackError (DomainPackRelease V) := do
  let found ← store.loadRelease tenant release
  orError (.notFound release.label) found

/-- `mutate_release`. -/
def mutateRelease (store : SqliteDomainPackStore V) (tenant : Option String)
    (release : DomainPackReleaseId V) (expectedRevision : UInt64) (actor : ActorIdentity)
    (mutation : DomainPackRelease V → AuthorityContext →
      Except DomainPackError (DomainPackRelease V)) :
    Except DomainPackError (DomainPackRelease V × SqliteDomainPackStore V) := do
  let record ← store.releaseOf tenant release
  requireRevision release.label record.revision expectedRevision
  let previousRevision := record.revision
  let authority ← authorityFromParts actor tenant
  let record ← mutation record authority
  encodeRelease record
  let revision ← revisionToSql record.revision
  let previousSql ← revisionToSql previousRevision
  let key := releaseRowKey record.tenantId record.snapshot.release
  -- the `UPDATE` names the previous revision again
  match store.releases[key]?.filter (fun row => row.revision == previousSql) with
  | some _ => .ok (record, { store with releases := store.releases.insert key ⟨revision, record⟩ })
  | none => do
    let actual ← store.loadRelease record.tenantId release
    .error (.conflict release.label previousRevision ((actual.map (·.revision)).getD 0))

/-- `write_activation`: a new row, the row of the next revision, or the same row again. -/
def writeActivation (store : SqliteDomainPackStore V) (activation : DomainPackActivation V) :
    Except DomainPackError (SqliteDomainPackStore V) := do
  validateActivation activation
  boundedJsonSize activation.toJson maxActivationRecordBytes "Domain Pack activation"
  let revision ← revisionToSql activation.revision
  let key := activationRowKey activation.tenantId activation.name
  let admits := match store.activations[key]? with
    | none => true
    | some row => row.revision + 1 == revision ||
        (row.revision == revision && row.body.toJson == activation.toJson)
  if admits then
    .ok { store with activations := store.activations.insert key ⟨revision, activation⟩ }
  else do
    let actual ← store.loadActivation activation.tenantId activation.name
    .error (.conflict activation.name (UInt64.ofNat (activation.revision.toNat - 1))
      ((actual.map (·.revision)).getD 0))

def install (store : SqliteDomainPackStore V) (snapshot : DomainPackSnapshot V)
    (authority : AuthorityContext) (now : Clock) :
    Except DomainPackError (DomainPackRelease V × SqliteDomainPackStore V) := do
  let tenant ← validatedTenant authority
  snapshot.validate
  let found ← store.loadRelease tenant snapshot.release
  match found with
  | some existing => do
    let record ← sameInstall existing snapshot
    .ok (record, store)
  | none => do
    store.enforceReleaseCount tenant snapshot.release.name
    let authority ← authorityFromParts authority.actor tenant
    let record ← installedRelease snapshot tenant authority now
    let next ← store.insertRelease record
    .ok (record, next)

def get (store : SqliteDomainPackStore V) (release : DomainPackReleaseId V)
    (authority : AuthorityContext) : Except DomainPackError (Option (DomainPackRelease V)) := do
  let tenant ← validatedTenant authority
  release.validate
  store.loadRelease tenant release

def evaluate (store : SqliteDomainPackStore V) (release : DomainPackReleaseId V)
    (expectedRevision : UInt64) (suiteSha256 reportSha256 : String) (passed : Bool)
    (authority : AuthorityContext) (now : Clock) :
    Except DomainPackError (DomainPackRelease V × SqliteDomainPackStore V) := do
  let tenant ← validatedTenant authority
  store.mutateRelease tenant release expectedRevision authority.actor fun record authority =>
    evaluateRelease record expectedRevision suiteSha256 reportSha256 passed authority now

def approve (store : SqliteDomainPackStore V) (release : DomainPackReleaseId V)
    (expectedRevision : UInt64) (evidenceSha256 : String) (authority : AuthorityContext)
    (now : Clock) : Except DomainPackError (DomainPackRelease V × SqliteDomainPackStore V) := do
  let tenant ← validatedTenant authority
  store.mutateRelease tenant release expectedRevision authority.actor fun record authority =>
    approveRelease record expectedRevision evidenceSha256 authority now

def activation (store : SqliteDomainPackStore V) (name : String) (authority : AuthorityContext) :
    Except DomainPackError (Option (DomainPackActivation V)) := do
  let tenant ← validatedTenant authority
  validatePackName name
  store.loadActivation tenant name

/-- The activation of a Pack. -/
def activationOf (store : SqliteDomainPackStore V) (tenant : Option String) (name : String) :
    Except DomainPackError (DomainPackActivation V) := do
  let found ← store.loadActivation tenant name
  orError (.notFound name) found

def bind (store : SqliteDomainPackStore V) (verified : VerifiedDomainPack V)
    (expectedActivationRevision : UInt64) (authority : AuthorityContext) :
    Except DomainPackError (DomainPackExecutionBinding V) := do
  let tenant ← validatedTenant authority
  let release ← store.releaseOf tenant verified.snapshot.release
  let activation ← store.activationOf tenant verified.snapshot.release.name
  bindExecution release activation verified expectedActivationRevision tenant

def activate (store : SqliteDomainPackStore V) (verified : VerifiedDomainPack V)
    (expectedRevision : UInt64) (authority : AuthorityContext) (now : Clock) :
    Except DomainPackError (DomainPackActivation V × SqliteDomainPackStore V) := do
  let tenant ← validatedTenant authority
  let release ← store.releaseOf tenant verified.snapshot.release
  requireActivatable release verified
  let current ← store.loadActivation tenant verified.snapshot.release.name
  let authority ← authorityFromParts authority.actor tenant
  let activation ← activateRelease current verified expectedRevision tenant authority now
  let next ← store.writeActivation activation
  .ok (activation, next)

def deactivate (store : SqliteDomainPackStore V) (name : String) (expectedRevision : UInt64)
    (authority : AuthorityContext) (now : Clock) :
    Except DomainPackError (DomainPackActivation V × SqliteDomainPackStore V) := do
  let tenant ← validatedTenant authority
  let current ← store.activationOf tenant name
  let authority ← authorityFromParts authority.actor tenant
  let activation ← deactivateRelease current expectedRevision authority now
  let next ← store.writeActivation activation
  .ok (activation, next)

def rollback (store : SqliteDomainPackStore V) (verified : VerifiedDomainPack V)
    (expectedRevision : UInt64) (authority : AuthorityContext) (now : Clock) :
    Except DomainPackError (DomainPackActivation V × SqliteDomainPackStore V) := do
  let tenant ← validatedTenant authority
  let release ← store.releaseOf tenant verified.snapshot.release
  requireActivatable release verified
  let current ← store.activationOf tenant verified.snapshot.release.name
  let authority ← authorityFromParts authority.actor tenant
  let activation ← rollbackRelease current verified expectedRevision authority now
  let next ← store.writeActivation activation
  .ok (activation, next)

/-- The answer to a call and the tables after it. -/
def call (store : SqliteDomainPackStore V) :
    DomainPackCall V → Except DomainPackError (DomainPackAnswer V × SqliteDomainPackStore V)
  | .install snapshot authority now => do
    let (record, next) ← store.install snapshot authority now
    .ok (.release record, next)
  | .get release authority => do
    let found ← store.get release authority
    .ok (.foundRelease found, store)
  | .evaluate release expected suite report passed authority now => do
    let (record, next) ← store.evaluate release expected suite report passed authority now
    .ok (.release record, next)
  | .approve release expected evidence authority now => do
    let (record, next) ← store.approve release expected evidence authority now
    .ok (.release record, next)
  | .activation name authority => do
    let found ← store.activation name authority
    .ok (.foundActivation found, store)
  | .bind verified expected authority => do
    let binding ← store.bind verified expected authority
    .ok (.bound binding, store)
  | .activate verified expected authority now => do
    let (activation, next) ← store.activate verified expected authority now
    .ok (.activation activation, next)
  | .deactivate name expected authority now => do
    let (activation, next) ← store.deactivate name expected authority now
    .ok (.activation activation, next)
  | .rollback verified expected authority now => do
    let (activation, next) ← store.rollback verified expected authority now
    .ok (.activation activation, next)

end SqliteDomainPackStore

end Stores

end YHarness.DomainPack

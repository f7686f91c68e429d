/-
# YHarness.DomainPack.Governance -- what a call may do to a catalog

`Does` says what a call that succeeds does: it keeps the catalog, installs a release,
moves one release to its next stage, or replaces one activation.  Everything else is
a case analysis over it.  `Sound` is the invariant: a release has as many revisions as
stages, its evaluation is of a suite that its snapshot pins, and an activation names
only approved releases of its tenant, in its history as well.  An approved release
never changes again, so a change of a release cannot invalidate an activation.
-/
import YHarness.DomainPack.Store
import YHarness.Lib.Tables

namespace YHarness.DomainPack

open YHarness.Lib YHarness.Kernel YHarness.Workflow

set_option autoImplicit false

section Calls

variable {V : Type} [SemVer V] [Sha256]

variable (V) in
/-- The key of a release or of an activation. -/
inductive DomainPackKey where
  | release (key : ReleaseKey V)
  | activation (key : ActivationKey)

def DomainPackKey.tenant : DomainPackKey V → Option String
  | release key => key.tenant
  | activation key => key.tenant

namespace DomainPackCall

def authority : DomainPackCall V → AuthorityContext
  | install _ authority _ | get _ authority | evaluate _ _ _ _ _ authority _
  | approve _ _ _ authority _ | activation _ authority | bind _ _ authority
  | activate _ _ authority _ | deactivate _ _ authority _ | rollback _ _ authority _ => authority

/-- The tenant of the caller. -/
def tenant (c : DomainPackCall V) : Option String :=
  c.authority.tenantId

/-- The record that a call may change, or whose revision it asks for. -/
def about (c : DomainPackCall V) : Option (DomainPackKey V) :=
  match c with
  | install snapshot .. => some (.release ⟨c.tenant, snapshot.release⟩)
  | evaluate release .. | approve release .. => some (.release ⟨c.tenant, release⟩)
  | bind verified .. | activate verified .. | rollback verified .. =>
    some (.activation ⟨c.tenant, verified.snapshot.release.name⟩)
  | deactivate name .. => some (.activation ⟨c.tenant, name⟩)
  | get .. | activation .. => none

/-- The revision that a call asks for. -/
def expects : DomainPackCall V → Option UInt64
  | evaluate _ expected _ _ _ _ _ | approve _ expected _ _ _ | bind _ expected _
  | activate _ expected _ _ | deactivate _ expected _ _ | rollback _ expected _ _ => some expected
  | install .. | get .. | activation .. => none

theorem tenant_of_about {c : DomainPackCall V} {key : DomainPackKey V}
    (about : c.about = some key) : key.tenant = c.tenant := by
  cases c <;> cases about <;> rfl

end DomainPackCall

namespace CatalogState

/-- The revision of a record; zero when there is none. -/
def revision (state : CatalogState V) : DomainPackKey V → UInt64
  | .release key => (state.releases[key]?.map (·.revision)).getD 0
  | .activation key => activationRevision state.activations[key]?

/-- Two catalogs hold the same under a key. -/
def SameAt (state next : CatalogState V) : DomainPackKey V → Prop
  | .release key => state.releases[key]? = next.releases[key]?
  | .activation key => state.activations[key]? = next.activations[key]?

omit [Sha256] in
theorem SameAt.revision {state next : CatalogState V} {key : DomainPackKey V}
    (same : state.SameAt next key) : next.revision key = state.revision key := by
  cases key with
  | release key =>
    exact congrArg (fun found => (found.map (·.revision)).getD 0) (Eq.symm same)
  | activation key => exact congrArg activationRevision (Eq.symm same)

/-- An approved release of a tenant. -/
def Approved (state : CatalogState V) (tenant : Option String) (release : DomainPackReleaseId V) :
    Prop :=
  ∃ record, state.releases[(⟨tenant, release⟩ : ReleaseKey V)]? = some record ∧
    record.stage.isApproved = true

end CatalogState

/-- The only two moves of a stage. -/
inductive Promotes (snapshot : DomainPackSnapshot V) :
    DomainPackReleaseStage → DomainPackReleaseStage → Prop
  | evaluated {evaluation : DomainPackEvaluation}
      (pinned : pinsSuite snapshot evaluation.suiteSha256 = true) :
      Promotes snapshot .installed (.evaluated evaluation)
  | approved {evaluation : DomainPackEvaluation} {approval : DomainPackApproval} :
      Promotes snapshot (.evaluated evaluation) (.approved evaluation approval)

omit [SemVer V] [Sha256] in
theorem Promotes.number {snapshot : DomainPackSnapshot V} {before after : DomainPackReleaseStage}
    (promotes : Promotes snapshot before after) : after.number = before.number + 1 := by
  cases promotes <;> rfl

omit [SemVer V] [Sha256] in
theorem Promotes.not_approved {snapshot : DomainPackSnapshot V}
    {before after : DomainPackReleaseStage} (promotes : Promotes snapshot before after) :
    before.isApproved = false := by
  cases promotes <;> rfl

omit [SemVer V] [Sha256] in
theorem Promotes.pinned {snapshot : DomainPackSnapshot V} {before after : DomainPackReleaseStage}
    (promotes : Promotes snapshot before after)
    (earlier : ∀ evaluation, before.evaluation? = some evaluation →
      pinsSuite snapshot evaluation.suiteSha256 = true) :
    ∀ evaluation, after.evaluation? = some evaluation →
      pinsSuite snapshot evaluation.suiteSha256 = true := by
  intro evaluation evaluated
  cases promotes with
  | evaluated pinned =>
    cases evaluated
    exact pinned
  | approved => exact earlier evaluation evaluated

/-! ## What a call does -/

/-- What a call that succeeds does to the catalog. -/
inductive Does (state : CatalogState V) (c : DomainPackCall V) :
    DomainPackAnswer V → CatalogState V → Prop
  | keeps {answer : DomainPackAnswer V}
      (met : ∀ key expected, c.about = some key → c.expects = some expected →
        state.revision key = expected) : Does state c answer state
  | installs {key : ReleaseKey V} {record : DomainPackRelease V} {now : Clock}
      (call : c = .install record.snapshot c.authority now)
      (about : c.about = some (.release key)) (free : state.releases[key]? = none)
      (tenant : validateTenant key.tenant = .ok ()) (tenantId : record.tenantId = key.tenant)
      (release : record.snapshot.release = key.release) (stage : record.stage = .installed)
      (first : record.revision = 1) (valid : validateRelease record = .ok ()) :
      Does state c (.release record) { state with releases := state.releases.insert key record }
  | advances {key : ReleaseKey V} {before record : DomainPackRelease V} {expected : UInt64}
      (about : c.about = some (.release key)) (expects : c.expects = some expected)
      (found : state.releases[key]? = some before) (advances : Advances expected before record)
      (promotes : Promotes before.snapshot before.stage record.stage) :
      Does state c (.release record) { state with releases := state.releases.insert key record }
  | replaces {key : ActivationKey} {activation : DomainPackActivation V} {expected : UInt64}
      {target : Option (DomainPackReleaseId V)}
      (about : c.about = some (.activation key)) (expects : c.expects = some expected)
      (tenant : validateTenant key.tenant = .ok ())
      (replaces : Replaces expected state.activations[key]? key.tenant key.name target activation)
      (approved : ∀ release, target = some release → state.Approved key.tenant release) :
      Does state c (.activation activation)
        { state with activations := state.activations.insert key activation }

/-! ## The invariant -/

namespace CatalogState

/-- A release as it may be held under a key. -/
structure ReleaseSound (key : ReleaseKey V) (record : DomainPackRelease V) : Prop where
  tenant : validateTenant key.tenant = .ok ()
  tenantId : record.tenantId = key.tenant
  release : record.snapshot.release = key.release
  valid : validateRelease record = .ok ()
  counted : record.revision.toNat = record.stage.number
  pinned : ∀ evaluation, record.stage.evaluation? = some evaluation →
    pinsSuite record.snapshot evaluation.suiteSha256 = true

/-- An activation as it may be held under a key. -/
structure ActivationSound (state : CatalogState V) (key : ActivationKey)
    (activation : DomainPackActivation V) : Prop where
  tenant : validateTenant key.tenant = .ok ()
  tenantId : activation.tenantId = key.tenant
  name : activation.name = key.name
  valid : validateActivation activation = .ok ()
  durable : activation.revision.toNat < 2 ^ 63
  approved : ∀ release ∈ activation.members, state.Approved key.tenant release

/-- The invariant of a catalog. -/
structure Sound (state : CatalogState V) : Prop where
  releases : ∀ (key : ReleaseKey V) record, state.releases[key]? = some record →
    ReleaseSound key record
  activations : ∀ (key : ActivationKey) activation, state.activations[key]? = some activation →
    state.ActivationSound key activation

omit [Sha256] in
theorem Sound.empty [Sha256] : (empty : CatalogState V).Sound where
  releases key record found := by
    rw [show (CatalogState.empty : CatalogState V).releases[key]? = none from
      OrdMap.get?_empty key] at found
    cases found
  activations key activation found := by
    rw [show (CatalogState.empty : CatalogState V).activations[key]? = none from
      OrdMap.get?_empty key] at found
    cases found

theorem ReleaseSound.installed {key : ReleaseKey V} {record : DomainPackRelease V}
    (tenant : validateTenant key.tenant = .ok ()) (tenantId : record.tenantId = key.tenant)
    (release : record.snapshot.release = key.release) (stage : record.stage = .installed)
    (first : record.revision = 1) (valid : validateRelease record = .ok ()) :
    ReleaseSound key record where
  tenant := tenant
  tenantId := tenantId
  release := release
  valid := valid
  counted := by rw [first, stage]; rfl
  pinned evaluation evaluated := by
    rw [stage] at evaluated
    cases evaluated

theorem ReleaseSound.advance {key : ReleaseKey V} {before record : DomainPackRelease V}
    {expected : UInt64} (sound : ReleaseSound key before)
    (advances : Advances expected before record)
    (promotes : Promotes before.snapshot before.stage record.stage) :
    ReleaseSound key record where
  tenant := sound.tenant
  tenantId := advances.tenantId.trans sound.tenantId
  release := by rw [advances.snapshot, sound.release]
  valid := advances.valid
  counted := by rw [advances.counted, sound.counted, promotes.number]
  pinned evaluation evaluated := by
    rw [advances.snapshot]
    exact promotes.pinned sound.pinned evaluation evaluated

end CatalogState

/-- An approved release stays as it is. -/
theorem Does.approved {state next : CatalogState V} {c : DomainPackCall V}
    {answer : DomainPackAnswer V} (does : Does state c answer next) {tenant : Option String}
    {release : DomainPackReleaseId V} (approved : state.Approved tenant release) :
    next.Approved tenant release := by
  obtain ⟨held, found, stage⟩ := approved
  cases does with
  | keeps => exact ⟨held, found, stage⟩
  | replaces => exact ⟨held, found, stage⟩
  | @installs key record now _ _ free =>
    refine ⟨held, ?_, stage⟩
    rw [OrdMap.get?_insert_of_ne, found]
    rintro rfl
    rw [free] at found
    cases found
  | @advances key before record expected _ _ current _ promotes =>
    refine ⟨held, ?_, stage⟩
    rw [OrdMap.get?_insert_of_ne, found]
    rintro rfl
    rw [current] at found
    cases found
    rw [promotes.not_approved] at stage
    cases stage

theorem CatalogState.ActivationSound.stays {state next : CatalogState V} {c : DomainPackCall V}
    {answer : DomainPackAnswer V} {key : ActivationKey} {activation : DomainPackActivation V}
    (sound : state.ActivationSound key activation) (does : Does state c answer next) :
    next.ActivationSound key activation :=
  { sound with approved := fun release named => does.approved (sound.approved release named) }

/-- **A call keeps the invariant.** -/
theorem Does.sound {state next : CatalogState V} {c : DomainPackCall V}
    {answer : DomainPackAnswer V} (does : Does state c answer next) (sound : state.Sound) :
    next.Sound := by
  have kept : ∀ key activation, state.activations[key]? = some activation →
      next.ActivationSound key activation :=
    fun key activation found => (sound.activations key activation found).stays does
  cases does with
  | keeps => exact sound
  | installs _ _ _ tenant tenantId release stage first valid =>
    exact ⟨OrdMap.forall_insert sound.releases
      (.installed tenant tenantId release stage first valid), kept⟩
  | advances _ _ found advances promotes =>
    exact ⟨OrdMap.forall_insert sound.releases
      ((sound.releases _ _ found).advance advances promotes), kept⟩
  | @replaces key activation expected target _ _ tenant replaces approved =>
    refine ⟨sound.releases, OrdMap.forall_insert kept ?_⟩
    refine ⟨tenant, replaces.tenantId, replaces.name, replaces.valid, replaces.durable, ?_⟩
    intro release named
    rcases DomainPackActivation.mem_members.1 named with active | earlier
    · exact approved release (replaces.active.symm.trans active)
    · obtain ⟨current, found, member⟩ := replaces.rollback release earlier
      exact (sound.activations key current found).approved release member

/-! ## What the calls of the in-memory store do -/

namespace CatalogState

omit [Sha256] in
theorem releaseOf_eq_ok {state : CatalogState V} {tenant : Option String}
    {release : DomainPackReleaseId V} {record : DomainPackRelease V} :
    state.releaseOf tenant release = .ok record ↔
      state.releases[(⟨tenant, release⟩ : ReleaseKey V)]? = some record :=
  orError_eq_ok

omit [Sha256] in
theorem activationOf_eq_ok {state : CatalogState V} {tenant : Option String} {name : String}
    {activation : DomainPackActivation V} :
    state.activationOf tenant name = .ok activation ↔
      state.activations[(⟨tenant, name⟩ : ActivationKey)]? = some activation :=
  orError_eq_ok

/-- A call that asks for no revision. -/
theorem keeps_of_expects {state : CatalogState V} {c : DomainPackCall V}
    {answer : DomainPackAnswer V} (unasked : c.expects = none) : Does state c answer state := by
  refine .keeps fun key expected _ expects => ?_
  rw [unasked] at expects
  cases expects

theorem install_does {state next : CatalogState V} {snapshot : DomainPackSnapshot V}
    {authority : AuthorityContext} {now : Clock} {record : DomainPackRelease V}
    (installed : state.install snapshot authority now = .ok (record, next)) :
    Does state (.install snapshot authority now) (.release record) next := by
  obtain ⟨tenant, validated, installed⟩ := bind_eq_ok.1 installed
  obtain ⟨rfl, valid, _⟩ := validatedTenant_eq_ok validated
  replace installed := rest_ok installed
  cases found : state.releases[(⟨authority.tenantId, snapshot.release⟩ : ReleaseKey V)]? with
  | some existing =>
    dsimp only at installed
    rw [found] at installed
    obtain ⟨_, _, installed⟩ := bind_eq_ok.1 installed
    cases installed
    exact keeps_of_expects rfl
  | none =>
    dsimp only at installed
    rw [found] at installed
    replace installed := rest_ok installed
    obtain ⟨_, made, installed⟩ := bind_eq_ok.1 installed
    cases installed
    obtain ⟨tenantId, rfl, stage, first, checked⟩ := installedRelease_eq_ok made
    exact .installs rfl rfl found valid tenantId rfl stage first checked

theorem evaluate_does {state next : CatalogState V} {release : DomainPackReleaseId V}
    {expected : UInt64} {suite report : String} {passed : Bool} {authority : AuthorityContext}
    {now : Clock} {record : DomainPackRelease V} (evaluated : state.evaluate release expected suite
      report passed authority now = .ok (record, next)) :
    Does state (.evaluate release expected suite report passed authority now) (.release record)
      next := by
  obtain ⟨tenant, validated, evaluated⟩ := bind_eq_ok.1 evaluated
  obtain ⟨rfl, _⟩ := validatedTenant_eq_ok validated
  obtain ⟨before, found, evaluated⟩ := bind_eq_ok.1 evaluated
  obtain ⟨_, made, evaluated⟩ := bind_eq_ok.1 evaluated
  cases evaluated
  obtain ⟨advances, stage, evaluation, staged, pinned⟩ := evaluateRelease_eq_ok made
  refine .advances rfl rfl (releaseOf_eq_ok.1 found) advances ?_
  rw [stage, staged]
  exact .evaluated pinned

theorem approve_does {state next : CatalogState V} {release : DomainPackReleaseId V}
    {expected : UInt64} {evidence : String} {authority : AuthorityContext} {now : Clock}
    {record : DomainPackRelease V}
    (approved : state.approve release expected evidence authority now = .ok (record, next)) :
    Does state (.approve release expected evidence authority now) (.release record) next := by
  obtain ⟨tenant, validated, approved⟩ := bind_eq_ok.1 approved
  obtain ⟨rfl, _⟩ := validatedTenant_eq_ok validated
  obtain ⟨before, found, approved⟩ := bind_eq_ok.1 approved
  obtain ⟨_, made, approved⟩ := bind_eq_ok.1 approved
  cases approved
  obtain ⟨advances, evaluation, approval, stage, staged⟩ := approveRelease_eq_ok made
  refine .advances rfl rfl (releaseOf_eq_ok.1 found) advances ?_
  rw [stage, staged]
  exact .approved

/-- What a call that binds found active. -/
theorem found_of_bind {state : CatalogState V} {verified : VerifiedDomainPack V}
    {expected : UInt64} {authority : AuthorityContext} {binding : DomainPackExecutionBinding V}
    (bound : state.bind verified expected authority = .ok binding) :
    (∃ record,
      state.releases[(⟨authority.tenantId, verified.snapshot.release⟩ : ReleaseKey V)]? =
        some record ∧ record.snapshot = verified.snapshot) ∧ ∃ activation,
      state.activations[(⟨authority.tenantId, verified.snapshot.release.name⟩ : ActivationKey)]? =
        some activation ∧
      activation.revision = expected ∧ activation.active = some verified.snapshot.release ∧
      activation.inventorySha256 = some verified.inventorySha256 ∧
      binding = ⟨authority.tenantId, verified.snapshot, expected, verified.inventorySha256⟩ := by
  obtain ⟨tenant, validated, bound⟩ := bind_eq_ok.1 bound
  obtain ⟨rfl, _⟩ := validatedTenant_eq_ok validated
  obtain ⟨record, found, bound⟩ := bind_eq_ok.1 bound
  obtain ⟨activation, held, bound⟩ := bind_eq_ok.1 bound
  obtain ⟨snapshot, _, revision, active, inventory, rfl⟩ := bindExecution_eq_ok bound
  exact ⟨⟨record, releaseOf_eq_ok.1 found, snapshot⟩, activation, activationOf_eq_ok.1 held, revision,
    active, inventory, by rw [revision]⟩

theorem bind_does {state : CatalogState V} {verified : VerifiedDomainPack V} {expected : UInt64}
    {authority : AuthorityContext} {binding : DomainPackExecutionBinding V}
    (bound : state.bind verified expected authority = .ok binding) :
    Does state (.bind verified expected authority) (.bound binding) state := by
  obtain ⟨_, activation, held, revision, _⟩ := found_of_bind bound
  refine .keeps fun key asked about expects => ?_
  cases about
  cases expects
  show activationRevision state.activations[(⟨authority.tenantId, _⟩ : ActivationKey)]? = _
  rw [held]
  exact revision

theorem activate_does {state next : CatalogState V} {verified : VerifiedDomainPack V}
    {expected : UInt64} {authority : AuthorityContext} {now : Clock}
    {activation : DomainPackActivation V}
    (activated : state.activate verified expected authority now = .ok (activation, next)) :
    Does state (.activate verified expected authority now) (.activation activation) next := by
  obtain ⟨tenant, validated, activated⟩ := bind_eq_ok.1 activated
  obtain ⟨rfl, valid, _⟩ := validatedTenant_eq_ok validated
  obtain ⟨record, found, activated⟩ := bind_eq_ok.1 activated
  obtain ⟨activatable, activated⟩ := seq_eq_ok.1 activated
  obtain ⟨_, made, activated⟩ := bind_eq_ok.1 activated
  cases activated
  have stage := (requireActivatable_eq_ok activatable).2
  rcases activateRelease_eq_ok made with ⟨held, revision⟩ | replaces
  · rw [OrdMap.insert_eq_self held]
    refine .keeps fun key asked about expects => ?_
    cases about
    cases expects
    show activationRevision state.activations[(⟨authority.tenantId, _⟩ : ActivationKey)]? = _
    rw [held]
    exact revision
  · refine .replaces rfl rfl valid replaces ?_
    rintro _ ⟨⟩
    exact ⟨record, releaseOf_eq_ok.1 found, stage⟩

theorem deactivate_does {state next : CatalogState V} (sound : state.Sound) {name : String}
    {expected : UInt64} {authority : AuthorityContext} {now : Clock}
    {activation : DomainPackActivation V}
    (deactivated : state.deactivate name expected authority now = .ok (activation, next)) :
    Does state (.deactivate name expected authority now) (.activation activation) next := by
  obtain ⟨tenant, validated, deactivated⟩ := bind_eq_ok.1 deactivated
  obtain ⟨rfl, valid, _⟩ := validatedTenant_eq_ok validated
  obtain ⟨current, held, deactivated⟩ := bind_eq_ok.1 deactivated
  obtain ⟨_, made, deactivated⟩ := bind_eq_ok.1 deactivated
  cases deactivated
  have found := activationOf_eq_ok.1 held
  have replaces := deactivateRelease_eq_ok made
  have known := sound.activations _ _ found
  rw [← found, known.tenantId, known.name] at replaces
  exact .replaces rfl rfl valid replaces nofun

theorem rollback_does {state next : CatalogState V} (sound : state.Sound)
    {verified : VerifiedDomainPack V} {expected : UInt64} {authority : AuthorityContext}
    {now : Clock} {activation : DomainPackActivation V}
    (rolledBack : state.rollback verified expected authority now = .ok (activation, next)) :
    Does state (.rollback verified expected authority now) (.activation activation) next := by
  obtain ⟨tenant, validated, rolledBack⟩ := bind_eq_ok.1 rolledBack
  obtain ⟨rfl, valid, _⟩ := validatedTenant_eq_ok validated
  obtain ⟨record, released, rolledBack⟩ := bind_eq_ok.1 rolledBack
  obtain ⟨activatable, rolledBack⟩ := seq_eq_ok.1 rolledBack
  obtain ⟨current, held, rolledBack⟩ := bind_eq_ok.1 rolledBack
  obtain ⟨_, made, rolledBack⟩ := bind_eq_ok.1 rolledBack
  cases rolledBack
  have stage := (requireActivatable_eq_ok activatable).2
  have found := activationOf_eq_ok.1 held
  have replaces := rollbackRelease_eq_ok made
  have known := sound.activations _ _ found
  rw [← found, known.tenantId, known.name] at replaces
  refine .replaces rfl rfl valid replaces ?_
  rintro _ ⟨⟩
  exact ⟨record, releaseOf_eq_ok.1 released, stage⟩

/-- **What a call does.** -/
theorem call_does {state next : CatalogState V} (sound : state.Sound) {c : DomainPackCall V}
    {answer : DomainPackAnswer V} (called : state.call c = .ok (answer, next)) :
    Does state c answer next := by
  cases c with
  | install snapshot authority now =>
    obtain ⟨⟨record, after⟩, installed, called⟩ := bind_eq_ok.1 called
    cases called
    exact install_does installed
  | get release authority =>
    obtain ⟨found, _, called⟩ := bind_eq_ok.1 called
    cases called
    exact keeps_of_expects rfl
  | evaluate release expected suite report passed authority now =>
    obtain ⟨⟨record, after⟩, evaluated, called⟩ := bind_eq_ok.1 called
    cases called
    exact evaluate_does evaluated
  | approve release expected evidence authority now =>
    obtain ⟨⟨record, after⟩, approved, called⟩ := bind_eq_ok.1 called
    cases called
    exact approve_does approved
  | activation name authority =>
    obtain ⟨found, _, called⟩ := bind_eq_ok.1 called
    cases called
    exact keeps_of_expects rfl
  | bind verified expected authority =>
    obtain ⟨binding, bound, called⟩ := bind_eq_ok.1 called
    cases called
    exact bind_does bound
  | activate verified expected authority now =>
    obtain ⟨⟨activation, after⟩, activated, called⟩ := bind_eq_ok.1 called
    cases called
    exact activate_does activated
  | deactivate name expected authority now =>
    obtain ⟨⟨activation, after⟩, deactivated, called⟩ := bind_eq_ok.1 called
    cases called
    exact deactivate_does sound deactivated
  | rollback verified expected authority now =>
    obtain ⟨⟨activation, after⟩, rolledBack, called⟩ := bind_eq_ok.1 called
    cases called
    exact rollback_does sound rolledBack

end CatalogState

end Calls

end YHarness.DomainPack

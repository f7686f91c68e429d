/-
# YHarness.DomainPack.Lifecycle -- the transitions of releases and activations

The functions of `control/domain-pack/src/store.rs` that both stores call: each takes
a record as it is stored, and returns the record to store in its place.  The clock is
read once, where `now` stands; it may fail.

Every transition is specified once: what it asked of the record (`evaluateRelease_eq_ok`,
`approveRelease_eq_ok`, ...) and what it leaves.
-/
import YHarness.DomainPack.Types
import YHarness.Kernel.Storage

namespace YHarness.DomainPack

open YHarness.Lib YHarness.Kernel YHarness.Workflow

set_option autoImplicit false

/-- What `now_ms` returns. -/
abbrev Clock : Type := Except DomainPackError UInt64

section Versions

variable {V : Type} [SemVer V]

def requireRevision (pack : String) (actual expected : UInt64) : Except DomainPackError Unit :=
  rejectIf (actual != expected) (.conflict pack expected actual)

def exceedsDurable : DomainPackError :=
  .invalid "Domain Pack revision exceeds the durable range"

def nextRevision (current : UInt64) : Except DomainPackError UInt64 :=
  if current.toNat + 1 < UInt64.size then do
    rejectIf (decide (2 ^ 63 ≤ current.toNat + 1)) exceedsDurable
    .ok (current + 1)
  else .error (.invalid "Domain Pack revision overflow")

section Releases

variable [Sha256]

def installedRelease (snapshot : DomainPackSnapshot V) (tenantId : Option String)
    (authority : AuthorityContext) (now : Clock) :
    Except DomainPackError (DomainPackRelease V) := do
  let now ← now
  let record : DomainPackRelease V :=
    ⟨domainPackStoreSchemaVersion, tenantId, snapshot, .installed, 1, authority.actor, now, now⟩
  validateRelease record
  .ok record

def sameInstall (existing : DomainPackRelease V) (snapshot : DomainPackSnapshot V) :
    Except DomainPackError (DomainPackRelease V) :=
  if existing.snapshot = snapshot then .ok existing
  else .error (.invalid
    s!"{snapshot.release.label} is already installed with different immutable content")

/-- A component of the snapshot is an Evaluation suite with this digest. -/
def pinsSuite (snapshot : DomainPackSnapshot V) (suiteSha256 : String) : Bool :=
  snapshot.components.any fun component =>
    component.kind == .evaluation && component.contentSha256 == suiteSha256

def evaluateRelease (record : DomainPackRelease V) (expectedRevision : UInt64)
    (suiteSha256 reportSha256 : String) (passed : Bool) (authority : AuthorityContext)
    (now : Clock) : Except DomainPackError (DomainPackRelease V) := do
  requireRevision record.snapshot.release.label record.revision expectedRevision
  rejectIf (record.stage != .installed)
    (.invalid "Domain Pack evaluation is immutable once recorded")
  validateDigest "Domain Pack evaluation suite" suiteSha256
  validateDigest "Domain Pack evaluation report" reportSha256
  rejectIf (!pinsSuite record.snapshot suiteSha256)
    (.invalid "Domain Pack evaluation evidence does not match a pinned suite")
  let now ← now
  let revision ← nextRevision record.revision
  let record := { record with
    stage := .evaluated ⟨suiteSha256, reportSha256, passed, authority.actor, now⟩
    revision, updatedAtMs := now }
  validateRelease record
  .ok record

def approveRelease (record : DomainPackRelease V) (expectedRevision : UInt64)
    (evidenceSha256 : String) (authority : AuthorityContext) (now : Clock) :
    Except DomainPackError (DomainPackRelease V) := do
  requireRevision record.snapshot.release.label record.revision expectedRevision
  validateDigest "Domain Pack approval evidence" evidenceSha256
  match record.stage with
  | .evaluated evaluation => do
    rejectIf (!evaluation.passed)
      (.invalid "a failed Domain Pack evaluation cannot be approved")
    rejectIf (evaluation.evaluatedBy == authority.actor)
      (.invalid "Domain Pack evaluator cannot approve the same release")
    let now ← now
    let revision ← nextRevision record.revision
    let record := { record with
      stage := .approved evaluation ⟨evidenceSha256, authority.actor, now⟩
      revision, updatedAtMs := now }
    validateRelease record
    .ok record
  | _ => .error (.invalid "only one evaluated Domain Pack release can be approved")

def DomainPackReleaseStage.isApproved : DomainPackReleaseStage → Bool
  | approved .. => true
  | _ => false

def requireActivatable (record : DomainPackRelease V) (verified : VerifiedDomainPack V) :
    Except DomainPackError Unit := do
  validateRelease record
  rejectIf (record.snapshot != verified.snapshot)
    (.invalid "verified Domain Pack does not match the installed release")
  rejectIf (!record.stage.isApproved)
    (.invalid "only an approved Domain Pack release can be activated")
  validateDigest "Domain Pack activation inventory" verified.inventorySha256

end Releases

section Activations

variable [Sha256]

def bindExecution (release : DomainPackRelease V) (activation : DomainPackActivation V)
    (verified : VerifiedDomainPack V) (expectedActivationRevision : UInt64)
    (tenantId : Option String) : Except DomainPackError (DomainPackExecutionBinding V) := do
  requireActivatable release verified
  requireRevision activation.name activation.revision expectedActivationRevision
  rejectIf (activation.tenantId != tenantId ||
      activation.active != some verified.snapshot.release ||
      activation.inventorySha256 != some verified.inventorySha256)
    (.invalid "active Domain Pack does not match the verified execution inventory")
  .ok ⟨tenantId, verified.snapshot, activation.revision, verified.inventorySha256⟩

/-- `push_rollback`: the history after one release more; the oldest makes room. -/
def pushRollback (rollback : List (DomainPackReleaseId V)) (release : DomainPackReleaseId V) :
    Except DomainPackError (List (DomainPackReleaseId V)) := do
  rejectIf (decide (maxRollbackHistory < rollback.length)) rollbackExceeds
  let rollback := if rollback.length = maxRollbackHistory then rollback.tail else rollback
  .ok (rollback ++ [release])

/-- The history after a release has been replaced, if one was active. -/
def pushPrevious (rollback : List (DomainPackReleaseId V)) :
    Option (DomainPackReleaseId V) → Except DomainPackError (List (DomainPackReleaseId V))
  | some active => pushRollback rollback active
  | none => .ok rollback

def activateRelease (current : Option (DomainPackActivation V)) (verified : VerifiedDomainPack V)
    (expectedRevision : UInt64) (tenantId : Option String) (authority : AuthorityContext)
    (now : Clock) : Except DomainPackError (DomainPackActivation V) := do
  let target := verified.snapshot.release
  let actual := (current.map (·.revision)).getD 0
  requireRevision target.name actual expectedRevision
  match current.filter fun existing => existing.active == some target &&
      existing.inventorySha256 == some verified.inventorySha256 with
  | some existing => .ok existing
  | none => do
    let rollback ← pushPrevious ((current.map (·.rollback)).getD [])
      ((current.bind (·.active)).filter fun active => active != target)
    let revision ← nextRevision actual
    let now ← now
    let activation : DomainPackActivation V :=
      ⟨domainPackStoreSchemaVersion, tenantId, target.name, some target, rollback,
        some verified.inventorySha256, revision, authority.actor, now⟩
    validateActivation activation
    .ok activation

def deactivateRelease (current : DomainPackActivation V) (expectedRevision : UInt64)
    (authority : AuthorityContext) (now : Clock) :
    Except DomainPackError (DomainPackActivation V) := do
  requireRevision current.name current.revision expectedRevision
  let active ← orError (.invalid s!"Domain Pack {current.name} is already inactive") current.active
  let rollback ← pushRollback current.rollback active
  let revision ← nextRevision current.revision
  let now ← now
  let current := { current with
    active := none, rollback, inventorySha256 := none, revision, changedBy := authority.actor
    changedAtMs := now }
  validateActivation current
  .ok current

def rollbackRelease (current : DomainPackActivation V) (verified : VerifiedDomainPack V)
    (expectedRevision : UInt64) (authority : AuthorityContext) (now : Clock) :
    Except DomainPackError (DomainPackActivation V) := do
  requireRevision current.name current.revision expectedRevision
  let target := verified.snapshot.release
  let expectedTarget ← orError
    (.invalid s!"Domain Pack {current.name} has no rollback release") current.rollback.getLast?
  rejectIf (target != expectedTarget)
    (.invalid (s!"Domain Pack {current.name} rollback target does not match bounded " ++
      "activation history"))
  let rollback ← pushPrevious current.rollback.dropLast current.active
  let revision ← nextRevision current.revision
  let now ← now
  let current := { current with
    active := some target, rollback, inventorySha256 := some verified.inventorySha256, revision
    changedBy := authority.actor, changedAtMs := now }
  validateActivation current
  .ok current

end Activations

/-! ## What the transitions ask and leave -/

omit [SemVer V] in
theorem requireRevision_eq_ok {pack : String} {actual expected : UInt64} :
    requireRevision pack actual expected = .ok () ↔ actual = expected := by
  rw [requireRevision, rejectIf_bne]

omit [SemVer V] in
theorem nextRevision_eq_ok {current next : UInt64} (counted : nextRevision current = .ok next) :
    next.toNat = current.toNat + 1 ∧ next.toNat < 2 ^ 63 := by
  unfold nextRevision at counted
  split at counted
  · rename_i small
    obtain ⟨durable, counted⟩ := seq_eq_ok.1 counted
    cases counted
    rw [rejectIf_decide, not_le] at durable
    have added : (current + 1).toNat = current.toNat + 1 := by
      rw [UInt64.toNat_add, UInt64.toNat_one]
      exact Nat.mod_eq_of_lt small
    omega
  · cases counted

theorem validatedTenant_eq_ok {authority : AuthorityContext} {tenant : Option String}
    (validated : validatedTenant authority = .ok tenant) :
    tenant = authority.tenantId ∧ validateTenant tenant = .ok () ∧
      authorityFromParts authority.actor tenant = .ok authority := by
  obtain ⟨made, built, validated⟩ := bind_eq_ok.1 validated
  cases validated
  have new := mapError_eq_ok.1 built
  obtain ⟨current, new⟩ := seq_eq_ok.1 new
  cases new
  exact ⟨rfl, (seq_eq_ok.1 current).2, built⟩

/-- The stages in their order. -/
def DomainPackReleaseStage.number : DomainPackReleaseStage → Nat
  | installed => 1
  | evaluated _ => 2
  | approved .. => 3

def DomainPackReleaseStage.evaluation? : DomainPackReleaseStage → Option DomainPackEvaluation
  | installed => none
  | evaluated evaluation | approved evaluation _ => some evaluation

section Specifications

variable [Sha256]

variable {authority : AuthorityContext} {expectedRevision : UInt64}
  {verified : VerifiedDomainPack V} {activation : DomainPackActivation V} {now : Clock}
  {record : DomainPackRelease V} {tenantId : Option String}
  {rollback next : List (DomainPackReleaseId V)} {release : DomainPackReleaseId V}

theorem installedRelease_eq_ok {snapshot : DomainPackSnapshot V}
    (installed : installedRelease snapshot tenantId authority now = .ok record) :
    record.tenantId = tenantId ∧ record.snapshot = snapshot ∧ record.stage = .installed ∧
      record.revision = 1 ∧ validateRelease record = .ok () := by
  obtain ⟨atMs, _, installed⟩ := bind_eq_ok.1 installed
  obtain ⟨valid, installed⟩ := seq_eq_ok.1 installed
  cases installed
  exact ⟨rfl, rfl, rfl, rfl, valid⟩

/-- What a release keeps when it moves to its next stage. -/
structure Advances (expected : UInt64) (before after : DomainPackRelease V) : Prop where
  expected : before.revision = expected
  tenantId : after.tenantId = before.tenantId
  snapshot : after.snapshot = before.snapshot
  counted : after.revision.toNat = before.revision.toNat + 1
  valid : validateRelease after = .ok ()

theorem evaluateRelease_eq_ok {record next : DomainPackRelease V}
    {suiteSha256 reportSha256 : String} {passed : Bool}
    (evaluated : evaluateRelease record expectedRevision suiteSha256 reportSha256
      passed authority now = .ok next) :
    Advances expectedRevision record next ∧ record.stage = .installed ∧
      ∃ evaluation, next.stage = .evaluated evaluation ∧
        pinsSuite record.snapshot evaluation.suiteSha256 = true := by
  obtain ⟨revision, evaluated⟩ := seq_eq_ok.1 evaluated
  obtain ⟨stage, evaluated⟩ := seq_eq_ok.1 evaluated
  replace evaluated := rest_ok (rest_ok evaluated)
  obtain ⟨pinned, evaluated⟩ := seq_eq_ok.1 evaluated
  obtain ⟨atMs, _, evaluated⟩ := bind_eq_ok.1 evaluated
  obtain ⟨counted, counts, evaluated⟩ := bind_eq_ok.1 evaluated
  obtain ⟨valid, evaluated⟩ := seq_eq_ok.1 evaluated
  cases evaluated
  rw [rejectIf_bne] at stage
  rw [rejectIf_eq_ok, Bool.not_eq_false'] at pinned
  exact ⟨⟨requireRevision_eq_ok.1 revision, rfl, rfl, (nextRevision_eq_ok counts).1, valid⟩, stage,
    _, rfl, pinned⟩

theorem approveRelease_eq_ok {record next : DomainPackRelease V} {evidenceSha256 : String}
    (approved : approveRelease record expectedRevision evidenceSha256 authority now = .ok next) :
    Advances expectedRevision record next ∧ ∃ evaluation approval,
      record.stage = .evaluated evaluation ∧ next.stage = .approved evaluation approval := by
  obtain ⟨revision, approved⟩ := seq_eq_ok.1 approved
  replace approved := rest_ok approved
  cases stage : record.stage with
  | evaluated evaluation =>
    rw [stage] at approved
    replace approved := rest_ok (rest_ok approved)
    obtain ⟨atMs, _, approved⟩ := bind_eq_ok.1 approved
    obtain ⟨counted, counts, approved⟩ := bind_eq_ok.1 approved
    obtain ⟨valid, approved⟩ := seq_eq_ok.1 approved
    cases approved
    exact ⟨⟨requireRevision_eq_ok.1 revision, rfl, rfl, (nextRevision_eq_ok counts).1, valid⟩,
      evaluation, _, rfl, rfl⟩
  | _ =>
    rw [stage] at approved
    cases approved

/-- An approved release passed its evaluation, and another actor approved it. -/
theorem approved_of_valid {evaluation : DomainPackEvaluation} {approval : DomainPackApproval}
    (valid : validateRelease record = .ok ()) (stage : record.stage = .approved evaluation approval) :
    evaluation.passed = true ∧ approval.approvedBy ≠ evaluation.evaluatedBy := by
  iterate 6 replace valid := rest_ok valid
  obtain ⟨staged, _⟩ := seq_eq_ok.1 valid
  rw [stage] at staged
  replace staged := rest_ok staged
  obtain ⟨passed, staged⟩ := seq_eq_ok.1 staged
  replace staged := rest_ok (rest_ok staged)
  obtain ⟨independent, _⟩ := seq_eq_ok.1 staged
  rw [rejectIf_eq_ok, Bool.not_eq_false'] at passed
  rw [rejectIf_eq_ok, beq_eq_false_iff_ne] at independent
  exact ⟨passed, independent⟩

theorem requireActivatable_eq_ok (activatable : requireActivatable record verified = .ok ()) :
    record.snapshot = verified.snapshot ∧ record.stage.isApproved = true := by
  replace activatable := rest_ok activatable
  obtain ⟨same, activatable⟩ := seq_eq_ok.1 activatable
  obtain ⟨approved, _⟩ := seq_eq_ok.1 activatable
  rw [rejectIf_bne] at same
  rw [rejectIf_eq_ok, Bool.not_eq_false'] at approved
  exact ⟨same, approved⟩

omit [SemVer V] [Sha256] in
theorem pushRollback_eq_ok (pushed : pushRollback rollback release = .ok next) :
    ∀ member ∈ next, member = release ∨ member ∈ rollback := by
  replace pushed := rest_ok pushed
  cases pushed
  intro member named
  rcases List.mem_append.1 named with earlier | last
  · refine .inr ?_
    split at earlier
    · exact List.mem_of_mem_tail earlier
    · exact earlier
  · exact .inl (List.mem_singleton.1 last)

omit [SemVer V] [Sha256] in
theorem pushPrevious_eq_ok {active : Option (DomainPackReleaseId V)}
    (pushed : pushPrevious rollback active = .ok next) :
    ∀ member ∈ next, active = some member ∨ member ∈ rollback := by
  cases active with
  | none =>
    cases pushed
    exact fun member named => .inr named
  | some release =>
    intro member named
    rcases pushRollback_eq_ok pushed member named with rfl | earlier
    · exact .inl rfl
    · exact .inr earlier

/-- The releases that an activation names. -/
def DomainPackActivation.members (activation : DomainPackActivation V) :
    List (DomainPackReleaseId V) :=
  activation.active.toList ++ activation.rollback

omit [SemVer V] [Sha256] in
theorem DomainPackActivation.mem_members : release ∈ activation.members ↔
      activation.active = some release ∨ release ∈ activation.rollback := by
  rw [members, List.mem_append, Option.mem_toList]

/-- The revision under a key; zero when there is none yet. -/
def activationRevision (current : Option (DomainPackActivation V)) : UInt64 :=
  (current.map (·.revision)).getD 0

/-- What takes the place of an activation: it names, besides the target, only releases
that were named before. -/
structure Replaces (expectedRevision : UInt64) (before : Option (DomainPackActivation V))
    (tenant : Option String) (name : String) (target : Option (DomainPackReleaseId V))
    (after : DomainPackActivation V) : Prop where
  expected : activationRevision before = expectedRevision
  tenantId : after.tenantId = tenant
  name : after.name = name
  counted : after.revision.toNat = expectedRevision.toNat + 1
  durable : after.revision.toNat < 2 ^ 63
  active : after.active = target
  valid : validateActivation after = .ok ()
  rollback : ∀ release ∈ after.rollback, ∃ current, before = some current ∧
    release ∈ current.members

theorem activateRelease_eq_ok {current : Option (DomainPackActivation V)}
    (activated : activateRelease current verified expectedRevision tenantId authority now =
      .ok activation) :
    (current = some activation ∧ activation.revision = expectedRevision) ∨
      Replaces expectedRevision current tenantId verified.snapshot.release.name
        (some verified.snapshot.release) activation := by
  obtain ⟨revision, activated⟩ := seq_eq_ok.1 activated
  rw [requireRevision_eq_ok] at revision
  split at activated
  · rename_i existing same
    cases activated
    obtain ⟨rfl, _⟩ := Option.filter_eq_some_iff.1 same
    exact .inl ⟨rfl, revision⟩
  · obtain ⟨rollback, pushed, activated⟩ := bind_eq_ok.1 activated
    obtain ⟨counted, counts, activated⟩ := bind_eq_ok.1 activated
    obtain ⟨atMs, _, activated⟩ := bind_eq_ok.1 activated
    obtain ⟨valid, activated⟩ := seq_eq_ok.1 activated
    cases activated
    obtain ⟨succ, durable⟩ := nextRevision_eq_ok counts
    rw [revision] at succ
    refine .inr ⟨revision, rfl, rfl, succ, durable, rfl, valid, fun release named => ?_⟩
    cases current with
    | none =>
      cases pushed
      cases named
    | some existing =>
      refine ⟨existing, rfl, DomainPackActivation.mem_members.2 ?_⟩
      exact (pushPrevious_eq_ok pushed release named).imp_left fun held =>
        (Option.filter_eq_some_iff.1 held).1

omit [Sha256] in
theorem deactivateRelease_eq_ok {current activation : DomainPackActivation V}
    (deactivated : deactivateRelease current expectedRevision authority now = .ok activation) :
    Replaces expectedRevision (some current) current.tenantId current.name none activation := by
  obtain ⟨revision, deactivated⟩ := seq_eq_ok.1 deactivated
  obtain ⟨active, held, deactivated⟩ := bind_eq_ok.1 deactivated
  obtain ⟨rollback, pushed, deactivated⟩ := bind_eq_ok.1 deactivated
  obtain ⟨counted, counts, deactivated⟩ := bind_eq_ok.1 deactivated
  obtain ⟨atMs, _, deactivated⟩ := bind_eq_ok.1 deactivated
  obtain ⟨valid, deactivated⟩ := seq_eq_ok.1 deactivated
  cases deactivated
  rw [requireRevision_eq_ok] at revision
  obtain ⟨succ, durable⟩ := nextRevision_eq_ok counts
  rw [revision] at succ
  rw [orError_eq_ok] at held
  refine ⟨revision, rfl, rfl, succ, durable, rfl, valid, fun release named => ?_⟩
  refine ⟨current, rfl, DomainPackActivation.mem_members.2 ?_⟩
  rcases pushRollback_eq_ok pushed release named with rfl | earlier
  · exact .inl held
  · exact .inr earlier

theorem rollbackRelease_eq_ok {current activation : DomainPackActivation V}
    (rolledBack : rollbackRelease current verified expectedRevision authority now =
      .ok activation) :
    Replaces expectedRevision (some current) current.tenantId current.name
      (some verified.snapshot.release) activation := by
  obtain ⟨revision, rolledBack⟩ := seq_eq_ok.1 rolledBack
  obtain ⟨_, _, rolledBack⟩ := bind_eq_ok.1 rolledBack
  replace rolledBack := rest_ok rolledBack
  obtain ⟨rollback, pushed, rolledBack⟩ := bind_eq_ok.1 rolledBack
  obtain ⟨counted, counts, rolledBack⟩ := bind_eq_ok.1 rolledBack
  obtain ⟨atMs, _, rolledBack⟩ := bind_eq_ok.1 rolledBack
  obtain ⟨valid, rolledBack⟩ := seq_eq_ok.1 rolledBack
  cases rolledBack
  rw [requireRevision_eq_ok] at revision
  obtain ⟨succ, durable⟩ := nextRevision_eq_ok counts
  rw [revision] at succ
  refine ⟨revision, rfl, rfl, succ, durable, rfl, valid, fun release named => ?_⟩
  refine ⟨current, rfl, DomainPackActivation.mem_members.2 ?_⟩
  exact (pushPrevious_eq_ok pushed release named).imp_right List.mem_of_mem_dropLast

theorem bindExecution_eq_ok {release : DomainPackRelease V} {expectedActivationRevision : UInt64}
    {binding : DomainPackExecutionBinding V}
    (bound : bindExecution release activation verified expectedActivationRevision tenantId =
      .ok binding) :
    release.snapshot = verified.snapshot ∧ release.stage.isApproved = true ∧
      activation.revision = expectedActivationRevision ∧
      activation.active = some verified.snapshot.release ∧
      activation.inventorySha256 = some verified.inventorySha256 ∧
      binding = ⟨tenantId, verified.snapshot, activation.revision, verified.inventorySha256⟩ := by
  obtain ⟨activatable, bound⟩ := seq_eq_ok.1 bound
  obtain ⟨revision, bound⟩ := seq_eq_ok.1 bound
  obtain ⟨same, bound⟩ := seq_eq_ok.1 bound
  cases bound
  obtain ⟨snapshot, approved⟩ := requireActivatable_eq_ok activatable
  rw [rejectIf_eq_ok, Bool.or_eq_false_iff, Bool.or_eq_false_iff, bne_eq_false_iff_eq,
    bne_eq_false_iff_eq, bne_eq_false_iff_eq] at same
  exact ⟨snapshot, approved, requireRevision_eq_ok.1 revision, same.1.2, same.2, rfl⟩

end Specifications

end Versions

end YHarness.DomainPack

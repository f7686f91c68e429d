/-
# YHarness.DomainPack.Types -- the records of the Domain Pack control plane

The data types of `control/domain-pack/src/model.rs` and `store.rs`, the JSON that
their derived `Serialize` writes, and the checks of single records.  A snapshot pins
the components of one release; a release record carries its promotion stage, and an
activation record the release that is active under a Pack name.

A `VerifiedDomainPack` can only be had by verifying a snapshot against an inventory,
so it carries that as a field.
-/
import YHarness.Workflow.Types

namespace YHarness.DomainPack

open YHarness.Lib YHarness.Kernel YHarness.Workflow

set_option autoImplicit false

inductive DomainPackError where
  | invalid (message : String)
  | notFound (pack : String)
  | conflict (pack : String) (expected actual : UInt64)
  | storage (message : String)
deriving DecidableEq

/-! ## Snapshots -/

def domainPackFormatVersion : UInt32 := 1
def domainPackStoreSchemaVersion : UInt32 := 1
def maxComponents : Nat := 256
def maxDescriptionBytes : Nat := 4096
def maxCoordinateBytes : Nat := 128
def maxSnapshotBytes : Nat := 1048576
def maxReleasesPerPack : Nat := 256
def maxRollbackHistory : Nat := 32
def maxReleaseRecordBytes : Nat := 1310720
def maxActivationRecordBytes : Nat := 65536

structure DomainPackReleaseId (V : Type) where
  name : String
  version : V
deriving DecidableEq

inductive DomainPackComponentKind where
  | workflow | skill | tool | policy | evaluation | schema
deriving DecidableEq

structure DomainPackComponentPin where
  kind : DomainPackComponentKind
  name : String
  version : String
  contentSha256 : String
deriving DecidableEq

structure DomainPackSnapshot (V : Type) where
  formatVersion : UInt32
  release : DomainPackReleaseId V
  description : String
  components : List DomainPackComponentPin
  contentSha256 : String
deriving DecidableEq

structure DomainPackInventory where
  components : List DomainPackComponentPin
  contentSha256 : String

namespace DomainPackComponentKind

/-- The place of a kind in its declaration, by which kinds are ordered. -/
def index : DomainPackComponentKind → Nat
  | workflow => 0
  | skill => 1
  | tool => 2
  | policy => 3
  | evaluation => 4
  | schema => 5

/-- The `{:?}` text of a kind. -/
def debug : DomainPackComponentKind → String
  | workflow => "Workflow"
  | skill => "Skill"
  | tool => "Tool"
  | policy => "Policy"
  | evaluation => "Evaluation"
  | schema => "Schema"

def toJson : DomainPackComponentKind → Json
  | workflow => .str "workflow"
  | skill => .str "skill"
  | tool => .str "tool"
  | policy => .str "policy"
  | evaluation => .str "evaluation"
  | schema => .str "schema"

end DomainPackComponentKind

namespace DomainPackComponentPin

section Order

attribute [local instance] lexOrd

/-- `self > other` in the derived order of the fields. -/
def isAfter (pin other : DomainPackComponentPin) : Bool :=
  compare (pin.kind.index, pin.name, pin.version, pin.contentSha256)
    (other.kind.index, other.name, other.version, other.contentSha256) == .gt

end Order

def toJson (pin : DomainPackComponentPin) : Json :=
  .obj [("kind", pin.kind.toJson), ("name", .str pin.name), ("version", .str pin.version),
    ("content_sha256", .str pin.contentSha256)]

end DomainPackComponentPin

def validateName (kind value : String) : Except DomainPackError Unit :=
  rejectIf (!boundedText (fun c => c.isAlphanum || c = '.' || c = '_' || c = '-' || c = '/')
      maxCoordinateBytes value)
    (.invalid s!"{kind} identity must be 1-{maxCoordinateBytes} portable ASCII bytes")

def validateCoordinate (kind value : String) : Except DomainPackError Unit :=
  rejectIf (!isPortable value)
    (.invalid s!"{kind} must be 1-{maxCoordinateBytes} portable ASCII bytes")

def validateDigest (kind value : String) : Except DomainPackError Unit :=
  rejectIf (!isLowerSha256 value) (.invalid s!"{kind} digest must be lowercase SHA-256")

/-- The loop of `validate_components`, after the components in `seen`, the last first. -/
def validatePins (seen : List DomainPackComponentPin) :
    List DomainPackComponentPin → Except DomainPackError Unit
  | [] => .ok ()
  | component :: rest => do
    rejectIf (seen.head?.any (·.isAfter component))
      (.invalid "Domain Pack components are not in canonical order")
    validateName "Domain Pack component" component.name
    validateCoordinate "Domain Pack component version" component.version
    validateDigest "Domain Pack component" component.contentSha256
    rejectIf (seen.any fun other => other.kind == component.kind && other.name == component.name)
      (.invalid s!"duplicate Domain Pack component {component.kind.debug}/{component.name}")
    validatePins (component :: seen) rest

def validateComponents (components : List DomainPackComponentPin) :
    Except DomainPackError Unit := do
  rejectIf (components.isEmpty || decide (maxComponents < components.length))
    (.invalid s!"Domain Pack must pin 1-{maxComponents} components")
  validatePins [] components
  rejectIf (!components.any fun component => component.kind == .evaluation)
    (.invalid "Domain Pack must pin at least one Evaluation suite")

def boundedJsonSize (value : Json) (maximum : Nat) (kind : String) :
    Except DomainPackError Unit :=
  rejectIf (decide (maximum < value.encodedLen)) (.invalid s!"{kind} exceeds {maximum} bytes")

section Versions

variable {V : Type} [SemVer V]

namespace DomainPackReleaseId

def toJson (release : DomainPackReleaseId V) : Json :=
  .obj [("name", .str release.name), ("version", .str (SemVer.display release.version))]

/-- `release_label`. -/
def label (release : DomainPackReleaseId V) : String :=
  s!"{release.name}@{SemVer.display release.version}"

/-- `validate_release_id`. -/
def validate (release : DomainPackReleaseId V) : Except DomainPackError Unit := do
  validateName "Domain Pack" release.name
  validateCoordinate "Domain Pack release version" (SemVer.display release.version)

end DomainPackReleaseId

namespace DomainPackSnapshot

/-- The fields that the digest covers. -/
def material (snapshot : DomainPackSnapshot V) : List (String × Json) :=
  [("format_version", jsonU32 snapshot.formatVersion), ("release", snapshot.release.toJson),
    ("description", .str snapshot.description),
    ("components", .arr (snapshot.components.map DomainPackComponentPin.toJson))]

def toJson (snapshot : DomainPackSnapshot V) : Json :=
  .obj (snapshot.material ++ [("content_sha256", .str snapshot.contentSha256)])

variable [Sha256]

def computedSha256 (snapshot : DomainPackSnapshot V) : Except DomainPackError String := do
  rejectIf (decide (maxSnapshotBytes < (Json.obj snapshot.material).encodedLen))
    (.invalid s!"Domain Pack snapshot exceeds {maxSnapshotBytes} bytes")
  .ok (Sha256.digest (.json (.obj snapshot.material)))

def validate (snapshot : DomainPackSnapshot V) : Except DomainPackError Unit := do
  rejectIf (snapshot.formatVersion != domainPackFormatVersion)
    (.invalid (s!"unsupported Domain Pack format {snapshot.formatVersion.toNat}; " ++
      s!"expected {domainPackFormatVersion.toNat}"))
  snapshot.release.validate
  rejectIf (isBlank snapshot.description ||
      decide (maxDescriptionBytes < snapshot.description.utf8ByteSize) ||
      hasControl snapshot.description)
    (.invalid s!"Domain Pack description must be 1-{maxDescriptionBytes} non-control bytes")
  validateComponents snapshot.components
  validateDigest "Domain Pack content" snapshot.contentSha256
  let computed ← snapshot.computedSha256
  rejectIf (snapshot.contentSha256 != computed)
    (.invalid s!"Domain Pack {snapshot.release.label} content digest does not match")
  boundedJsonSize snapshot.toJson maxSnapshotBytes "Domain Pack snapshot"

end DomainPackSnapshot

/-! ## Inventories -/

section Inventories

variable [Sha256]

def inventorySha256 (components : List DomainPackComponentPin) : Except DomainPackError String := do
  let encoded := Json.arr (components.map DomainPackComponentPin.toJson)
  rejectIf (decide (maxSnapshotBytes < encoded.encodedLen))
    (.invalid s!"Domain Pack inventory exceeds {maxSnapshotBytes} bytes")
  .ok (Sha256.digest (.json encoded))

def DomainPackInventory.validate (inventory : DomainPackInventory) :
    Except DomainPackError Unit := do
  validateComponents inventory.components
  validateDigest "Domain Pack inventory" inventory.contentSha256
  let computed ← inventorySha256 inventory.components
  rejectIf (inventory.contentSha256 != computed)
    (.invalid "Domain Pack inventory digest does not match")

/-- One round of the loop of `verify`; the map it looks into keeps the last component of
an identity. -/
def verifyPin (installed : List DomainPackComponentPin) (required : DomainPackComponentPin) :
    Except DomainPackError Unit :=
  match installed.reverse.find? fun other =>
      other.kind == required.kind && other.name == required.name with
  | none => .error (.invalid
      s!"Domain Pack component {required.kind.debug}/{required.name} is not installed")
  | some other => rejectIf (other != required) (.invalid
      s!"Domain Pack component {required.kind.debug}/{required.name} does not match its exact pin")

/-- The checks of `verify`. -/
def DomainPackSnapshot.checkAgainst (snapshot : DomainPackSnapshot V)
    (inventory : DomainPackInventory) : Except DomainPackError Unit := do
  snapshot.validate
  inventory.validate
  checkAll (verifyPin inventory.components) snapshot.components

variable (V) in
/-- A snapshot that matches an inventory. -/
structure VerifiedDomainPack where
  snapshot : DomainPackSnapshot V
  inventorySha256 : String
  verified : ∃ inventory : DomainPackInventory, snapshot.checkAgainst inventory = .ok () ∧
    inventorySha256 = inventory.contentSha256

def DomainPackSnapshot.verify (snapshot : DomainPackSnapshot V) (inventory : DomainPackInventory) :
    Except DomainPackError (VerifiedDomainPack V) :=
  match checked : snapshot.checkAgainst inventory with
  | .ok () => .ok ⟨snapshot, inventory.contentSha256, inventory, checked, rfl⟩
  | .error error => .error error

end Inventories

/-! ## Releases -/

structure DomainPackEvaluation where
  suiteSha256 : String
  reportSha256 : String
  passed : Bool
  evaluatedBy : ActorIdentity
  evaluatedAtMs : UInt64
deriving DecidableEq

structure DomainPackApproval where
  evidenceSha256 : String
  approvedBy : ActorIdentity
  approvedAtMs : UInt64
deriving DecidableEq

inductive DomainPackReleaseStage where
  | installed
  | evaluated (evaluation : DomainPackEvaluation)
  | approved (evaluation : DomainPackEvaluation) (approval : DomainPackApproval)
deriving DecidableEq

variable (V) in
structure DomainPackRelease where
  schemaVersion : UInt32
  tenantId : Option String
  snapshot : DomainPackSnapshot V
  stage : DomainPackReleaseStage
  revision : UInt64
  installedBy : ActorIdentity
  installedAtMs : UInt64
  updatedAtMs : UInt64
deriving DecidableEq

variable (V) in
structure DomainPackActivation where
  schemaVersion : UInt32
  tenantId : Option String
  name : String
  active : Option (DomainPackReleaseId V)
  rollback : List (DomainPackReleaseId V)
  inventorySha256 : Option String
  revision : UInt64
  changedBy : ActorIdentity
  changedAtMs : UInt64
deriving DecidableEq

variable (V) in
structure DomainPackExecutionBinding where
  tenantId : Option String
  snapshot : DomainPackSnapshot V
  activationRevision : UInt64
  inventorySha256 : String

def DomainPackEvaluation.toJson (evaluation : DomainPackEvaluation) : Json :=
  .obj [("suite_sha256", .str evaluation.suiteSha256),
    ("report_sha256", .str evaluation.reportSha256), ("passed", .bool evaluation.passed),
    ("evaluated_by", evaluation.evaluatedBy.toJson),
    ("evaluated_at_ms", jsonU64 evaluation.evaluatedAtMs)]

def DomainPackApproval.toJson (approval : DomainPackApproval) : Json :=
  .obj [("evidence_sha256", .str approval.evidenceSha256),
    ("approved_by", approval.approvedBy.toJson), ("approved_at_ms", jsonU64 approval.approvedAtMs)]

def DomainPackReleaseStage.toJson : DomainPackReleaseStage → Json
  | installed => .obj [("stage", .str "installed")]
  | evaluated evaluation =>
    .obj [("stage", .str "evaluated"), ("evaluation", evaluation.toJson)]
  | approved evaluation approval =>
    .obj [("stage", .str "approved"), ("evaluation", evaluation.toJson),
      ("approval", approval.toJson)]

def DomainPackRelease.toJson (record : DomainPackRelease V) : Json :=
  .obj ([("schema_version", jsonU32 record.schemaVersion)] ++
    skipNone "tenant_id" .str record.tenantId ++
    [("snapshot", record.snapshot.toJson), ("stage", record.stage.toJson),
      ("revision", jsonU64 record.revision), ("installed_by", record.installedBy.toJson),
      ("installed_at_ms", jsonU64 record.installedAtMs),
      ("updated_at_ms", jsonU64 record.updatedAtMs)])

def DomainPackActivation.toJson (activation : DomainPackActivation V) : Json :=
  .obj ([("schema_version", jsonU32 activation.schemaVersion)] ++
    skipNone "tenant_id" .str activation.tenantId ++
    [("name", .str activation.name),
      ("active", nullable DomainPackReleaseId.toJson activation.active),
      ("rollback", .arr (activation.rollback.map DomainPackReleaseId.toJson)),
      ("inventory_sha256", nullable .str activation.inventorySha256),
      ("revision", jsonU64 activation.revision), ("changed_by", activation.changedBy.toJson),
      ("changed_at_ms", jsonU64 activation.changedAtMs)])

/-! ## Checks of records -/

/-- `authority_from_parts`. -/
def authorityFromParts (actor : ActorIdentity) (tenant : Option String) :
    Except DomainPackError AuthorityContext :=
  (AuthorityContext.new actor tenant).mapError fun _ => .invalid "trusted authority is invalid"

/-- `validated_tenant`. -/
def validatedTenant (authority : AuthorityContext) : Except DomainPackError (Option String) := do
  let _ ← authorityFromParts authority.actor authority.tenantId
  .ok authority.tenantId

def validateActor (actor : ActorIdentity) : Except DomainPackError Unit := do
  let _ ← authorityFromParts actor none
  .ok ()

def validateOptionalTenant (tenant : Option String) : Except DomainPackError Unit := do
  let _ ← authorityFromParts .localProcess tenant
  .ok ()

def validatePackName (name : String) : Except DomainPackError Unit :=
  rejectIf (!boundedText (fun c => c.isAlphanum || c = '.' || c = '_' || c = '-' || c = '/')
      128 name)
    (.invalid "Domain Pack name must be 1-128 portable ASCII bytes")

def validateEvaluation (evaluation : DomainPackEvaluation) (installedAtMs : UInt64) :
    Except DomainPackError Unit := do
  validateDigest "Domain Pack evaluation suite" evaluation.suiteSha256
  validateDigest "Domain Pack evaluation report" evaluation.reportSha256
  validateActor evaluation.evaluatedBy
  rejectIf (decide (evaluation.evaluatedAtMs < installedAtMs))
    (.invalid "Domain Pack evaluation precedes installation")

/-- The checks of `validate_release` on the stage. -/
def validateStage (stage : DomainPackReleaseStage) (installedAtMs : UInt64) :
    Except DomainPackError Unit :=
  match stage with
  | .installed => .ok ()
  | .evaluated evaluation => validateEvaluation evaluation installedAtMs
  | .approved evaluation approval => do
    validateEvaluation evaluation installedAtMs
    rejectIf (!evaluation.passed)
      (.invalid "approved Domain Pack contains a failed evaluation")
    validateDigest "Domain Pack approval evidence" approval.evidenceSha256
    validateActor approval.approvedBy
    rejectIf (approval.approvedBy == evaluation.evaluatedBy)
      (.invalid "Domain Pack evaluator and approver are identical")
    rejectIf (decide (approval.approvedAtMs < evaluation.evaluatedAtMs))
      (.invalid "Domain Pack approval precedes evaluation")

def validateRelease [Sha256] (record : DomainPackRelease V) : Except DomainPackError Unit := do
  rejectIf (record.schemaVersion != domainPackStoreSchemaVersion)
    (.invalid (s!"unsupported Domain Pack release schema {record.schemaVersion.toNat}; " ++
      s!"expected {domainPackStoreSchemaVersion.toNat}"))
  validateOptionalTenant record.tenantId
  record.snapshot.validate
  validateActor record.installedBy
  rejectIf (record.revision == 0 || record.installedAtMs == 0 || record.updatedAtMs == 0)
    (.invalid "Domain Pack release revision and timestamps must be non-zero")
  rejectIf (decide (record.updatedAtMs < record.installedAtMs))
    (.invalid "Domain Pack release time precedes installation")
  validateStage record.stage record.installedAtMs
  boundedJsonSize record.toJson maxReleaseRecordBytes "Domain Pack release"

/-- The check of the releases of an activation. -/
def validateMember (name : String) (release : DomainPackReleaseId V) :
    Except DomainPackError Unit := do
  release.validate
  rejectIf (release.name != name) (.invalid "Domain Pack activation mixes different Pack names")

def rollbackExceeds : DomainPackError :=
  .invalid s!"Domain Pack rollback history exceeds {maxRollbackHistory} releases"

/-- The check of the inventory of an activation: there is one when a release is active. -/
def DomainPackActivation.validateInventory (activation : DomainPackActivation V) :
    Except DomainPackError Unit :=
  match activation.active, activation.inventorySha256 with
  | some _, some digest => validateDigest "Domain Pack inventory" digest
  | none, none => .ok ()
  | _, _ => .error (.invalid "Domain Pack active release and inventory evidence disagree")

def validateActivation (activation : DomainPackActivation V) : Except DomainPackError Unit := do
  rejectIf (activation.schemaVersion != domainPackStoreSchemaVersion)
    (.invalid (s!"unsupported Domain Pack activation schema {activation.schemaVersion.toNat}; " ++
      s!"expected {domainPackStoreSchemaVersion.toNat}"))
  validateOptionalTenant activation.tenantId
  validatePackName activation.name
  rejectIf (activation.revision == 0 || activation.changedAtMs == 0)
    (.invalid "Domain Pack activation revision and timestamp must be non-zero")
  validateActor activation.changedBy
  rejectIf (decide (maxRollbackHistory < activation.rollback.length)) rollbackExceeds
  checkAll (validateMember activation.name) (activation.active.toList ++ activation.rollback)
  activation.validateInventory
  boundedJsonSize activation.toJson maxActivationRecordBytes "Domain Pack activation"

end Versions

end YHarness.DomainPack

/-
# YHarness.Kernel.Bounds -- bounds on JSON values, texts and identities

The bounded-JSON helpers of `src/json.rs`, the digest they feed, and the field
validators of `src/kernel/types.rs`, `src/kernel/registry.rs` and
`src/verification/mod.rs` that State calls on the records it stores.
-/
import YHarness.Kernel.Encode
import YHarness.Lib.Check
import YHarness.Lib.ReadBack

namespace YHarness.Kernel

open YHarness.Lib

set_option autoImplicit false

/-! ## JSON shape -/

def maxJsonDepth : Nat := 64
def maxJsonNodes : Nat := 65536

inductive BoundedJsonError where
  | limitExceeded
  | cannotEncode

/-- `validate_children`: the children about to be pushed fit below the depth
limit and into what the node limit leaves. -/
def validateChildren (visited pending depth children : Nat) : Except BoundedJsonError Unit :=
  rejectIf ((decide (0 < children) && decide (maxJsonDepth ≤ depth)) ||
    decide (maxJsonNodes - visited - pending < children)) .limitExceeded

/-- The loop of `validate_value_shape`.  The head of `pending` is the top of
the source's stack; `fuel` bounds the iterations, and the node limit rejects
before it runs out. -/
def validateShapeLoop : Nat → List (Json × Nat) → Nat → Except BoundedJsonError Unit
  | _, [], _ => .ok ()
  | 0, _ :: _, _ => .error .limitExceeded
  | fuel + 1, (value, depth) :: pending, visited => do
    rejectIf (decide (maxJsonDepth < depth) || decide (maxJsonNodes < visited + 1))
      .limitExceeded
    match value with
    | .arr values => do
      validateChildren (visited + 1) pending.length depth values.length
      validateShapeLoop fuel ((values.reverse.map (·, depth + 1)) ++ pending) (visited + 1)
    | .obj fields => do
      validateChildren (visited + 1) pending.length depth fields.length
      validateShapeLoop fuel ((fields.reverse.map (·.2, depth + 1)) ++ pending) (visited + 1)
    | _ => validateShapeLoop fuel pending (visited + 1)

def validateValueShape (value : Json) : Except BoundedJsonError Unit :=
  validateShapeLoop (maxJsonNodes + 1) [(value, 0)] 0

/-- The nodes a stack still has to visit. -/
def stackNodes (pending : List (Json × Nat)) : Nat :=
  valuesNodes (pending.map (·.1))

/-- Every value of the stack ends above the depth limit. -/
def StackShallow (pending : List (Json × Nat)) : Prop :=
  ∀ entry ∈ pending, entry.2 + entry.1.depth ≤ maxJsonDepth

theorem depth_le_valuesDepth {v : Json} {vs : List Json} (member : v ∈ vs) :
    v.depth + 1 ≤ valuesDepth vs := by
  induction vs with
  | nil => cases member
  | cons w ws ih =>
    simp only [valuesDepth]
    rcases List.mem_cons.1 member with rfl | member
    · omega
    · have := ih member
      omega

theorem valuesDepth_le {vs : List Json} {n : Nat} (bounded : ∀ v ∈ vs, v.depth + 1 ≤ n) :
    valuesDepth vs ≤ n := by
  induction vs with
  | nil => simp [valuesDepth]
  | cons v vs ih =>
    simp only [valuesDepth]
    have head := bounded v (List.mem_cons_self ..)
    have tail := ih fun w member => bounded w (List.mem_cons_of_mem _ member)
    omega

theorem valuesNodes_reverse (vs : List Json) : valuesNodes vs.reverse = valuesNodes vs := by
  induction vs with
  | nil => rfl
  | cons v vs ih => simp [valuesNodes, ih, Nat.add_comm]

/-- The children of one container, pushed on the stack. -/
def pushed (values : List Json) (depth : Nat) : List (Json × Nat) :=
  values.reverse.map (·, depth + 1)

theorem stackNodes_pushed (values : List Json) (depth : Nat) (pending : List (Json × Nat)) :
    stackNodes (pushed values depth ++ pending) = valuesNodes values + stackNodes pending := by
  have forget : (pushed values depth).map (·.1) = values.reverse := by
    simp [pushed, Function.comp_def]
  simp [stackNodes, forget, valuesNodes_reverse]

theorem stackShallow_pushed (values : List Json) (depth : Nat) (pending : List (Json × Nat)) :
    StackShallow (pushed values depth ++ pending) ↔
      (∀ v ∈ values, depth + 1 + v.depth ≤ maxJsonDepth) ∧ StackShallow pending := by
  simp only [StackShallow, pushed, List.mem_append, List.mem_map, List.mem_reverse]
  constructor
  · intro shallow
    exact ⟨fun v member => shallow (v, depth + 1) (.inl ⟨v, member, rfl⟩),
      fun entry member => shallow entry (.inr member)⟩
  · rintro ⟨children, rest⟩ entry (⟨v, member, rfl⟩ | member)
    · exact children v member
    · exact rest entry member

/-- One container of the loop: pushing its children is rejected exactly when
one of the two limits is already exceeded. -/
theorem container_step (values : List Json) (pending : List (Json × Nat))
    {fuel depth visited : Nat} (level : depth ≤ maxJsonDepth)
    (below : ∀ stack, validateShapeLoop fuel stack (visited + 1) = .ok () ↔
      StackShallow stack ∧ visited + 1 + stackNodes stack ≤ maxJsonNodes) :
    (do validateChildren (visited + 1) pending.length depth values.length
        validateShapeLoop fuel (pushed values depth ++ pending) (visited + 1)) = .ok () ↔
      depth + valuesDepth values ≤ maxJsonDepth ∧ StackShallow pending ∧
        visited + 1 + valuesNodes values + stackNodes pending ≤ maxJsonNodes := by
  rw [seq_eq_ok, below, stackNodes_pushed, stackShallow_pushed, validateChildren,
    rejectIf_eq_ok]
  have children := length_le_valuesNodes values
  have rest := length_le_valuesNodes (pending.map (·.1))
  rw [List.length_map] at rest
  simp only [Bool.or_eq_false_iff, Bool.and_eq_false_iff, decide_eq_false_iff_not, stackNodes]
  constructor
  · rintro ⟨⟨deep, _⟩, ⟨shallow, others⟩, nodes⟩
    refine ⟨?_, others, by omega⟩
    have inner : valuesDepth values ≤ maxJsonDepth - depth :=
      valuesDepth_le fun v member => by have := shallow v member; omega
    omega
  · rintro ⟨inner, others, nodes⟩
    refine ⟨⟨?_, by omega⟩, ⟨fun v member => ?_, others⟩, by omega⟩
    · rcases values with _ | ⟨v, vs⟩
      · exact .inl (by simp)
      · have := depth_le_valuesDepth (List.mem_cons_self : v ∈ v :: vs)
        exact .inr (by omega)
    · have := depth_le_valuesDepth member
      omega

/-- The loop accepts a stack exactly when every value ends above the depth
limit and the nodes left fit the node limit. -/
theorem validateShapeLoop_eq_ok (fuel : Nat) :
    ∀ (pending : List (Json × Nat)) (visited : Nat), visited ≤ maxJsonNodes →
      fuel + visited = maxJsonNodes + 1 →
      (validateShapeLoop fuel pending visited = .ok () ↔
        StackShallow pending ∧ visited + stackNodes pending ≤ maxJsonNodes) := by
  induction fuel with
  | zero =>
    intro pending visited within spent
    omega
  | succ fuel ih =>
    intro pending visited within spent
    cases pending with
    | nil => simp [validateShapeLoop, StackShallow, stackNodes, valuesNodes, within]
    | cons entry pending =>
      obtain ⟨value, depth⟩ := entry
      have positive := value.nodes_pos
      have cons_shallow : StackShallow ((value, depth) :: pending) ↔
          depth + value.depth ≤ maxJsonDepth ∧ StackShallow pending := by
        simp [StackShallow]
      have cons_nodes : stackNodes ((value, depth) :: pending) =
          value.nodes + stackNodes pending := by
        simp [stackNodes, valuesNodes]
      rw [cons_shallow, cons_nodes]
      by_cases next : visited + 1 ≤ maxJsonNodes
      · by_cases level : depth ≤ maxJsonDepth
        · have below := fun stack => ih stack (visited + 1) next (by omega)
          have admitted : rejectIf (decide (maxJsonDepth < depth) ||
              decide (maxJsonNodes < visited + 1)) BoundedJsonError.limitExceeded = .ok () := by
            rw [rejectIf_eq_ok, Bool.or_eq_false_iff, decide_eq_false_iff_not,
              decide_eq_false_iff_not]
            omega
          cases value with
          | arr values =>
            have step := container_step values pending level below
            simp only [pushed] at step
            simp only [validateShapeLoop, admitted, ok_bind, Json.depth, Json.nodes]
            rw [step]
            constructor
            · rintro ⟨inner, rest, nodes⟩; exact ⟨⟨inner, rest⟩, by omega⟩
            · rintro ⟨⟨inner, rest⟩, nodes⟩; exact ⟨inner, rest, by omega⟩
          | obj fields =>
            have step := container_step (fields.map (·.2)) pending level below
            simp only [pushed, ← List.map_reverse, List.map_map, List.length_map,
              Function.comp_def] at step
            simp only [validateShapeLoop, admitted, ok_bind, Json.depth, Json.nodes,
              fieldsDepth_eq, fieldsNodes_eq]
            rw [step]
            constructor
            · rintro ⟨inner, rest, nodes⟩; exact ⟨⟨inner, rest⟩, by omega⟩
            · rintro ⟨⟨inner, rest⟩, nodes⟩; exact ⟨inner, rest, by omega⟩
          | _ =>
            simp only [validateShapeLoop, admitted, ok_bind, Json.depth, Json.nodes, below]
            constructor
            · rintro ⟨rest, nodes⟩; exact ⟨⟨level, rest⟩, by omega⟩
            · rintro ⟨⟨_, rest⟩, nodes⟩; exact ⟨rest, by omega⟩
        · have rejected : rejectIf (decide (maxJsonDepth < depth) ||
              decide (maxJsonNodes < visited + 1)) BoundedJsonError.limitExceeded =
              .error .limitExceeded := by
            simp [rejectIf, Nat.lt_of_not_le level]
          cases value <;>
            simp only [validateShapeLoop, rejected, error_bind, reduceCtorEq, false_iff] <;>
            omega
      · have rejected : rejectIf (decide (maxJsonDepth < depth) ||
            decide (maxJsonNodes < visited + 1)) BoundedJsonError.limitExceeded =
            .error .limitExceeded := by
          simp [rejectIf, Nat.lt_of_not_le next]
        cases value <;>
          simp only [validateShapeLoop, rejected, error_bind, reduceCtorEq, false_iff] <;>
          omega

/-- **Accepted shapes.**  A value passes exactly when it has at most 64 levels
below its root and at most 65,536 nodes. -/
theorem validateValueShape_eq_ok {value : Json} :
    validateValueShape value = .ok () ↔
      value.depth ≤ maxJsonDepth ∧ value.nodes ≤ maxJsonNodes := by
  rw [validateValueShape, validateShapeLoop_eq_ok _ _ _ (Nat.zero_le _) rfl]
  simp [StackShallow, stackNodes, valuesNodes]

/-! ## Bounded encodings and digests -/

/-- `bounded_serialized_size`, and the length `to_bounded_json_vec` returns.
The derived serializers never fail, so the only failure is the limit. -/
def boundedSerializedSize (value : Json) (maximum : Nat) : Except BoundedJsonError Nat :=
  if value.encodedLen ≤ maximum then .ok value.encodedLen else .error .limitExceeded

@[simp] theorem boundedSerializedSize_eq_ok {value : Json} {maximum size : Nat} :
    boundedSerializedSize value maximum = .ok size ↔
      value.encodedLen ≤ maximum ∧ value.encodedLen = size := by
  unfold boundedSerializedSize
  split <;> simp_all

/-- One field of a framed digest input. -/
inductive HashField where
  | text (value : String)
  | u64 (value : UInt64)
deriving DecidableEq

/-- What the source hands to SHA-256: the compact encoding of a JSON value, a
canonical JSON value under a completion domain, or length-framed components. -/
inductive HashInput where
  | json (value : Json)
  | completion (domain : String) (canonical : Json)
  | components (fields : List (String × HashField))
deriving DecidableEq

def isLowerSha256 (value : String) : Bool :=
  (utf8Bytes value).length == 64 && (utf8Bytes value).all fun b =>
    (decide (48 ≤ b.toNat) && decide (b.toNat ≤ 57)) ||
      (decide (97 ≤ b.toNat) && decide (b.toNat ≤ 102))

/-- SHA-256 in lowercase hexadecimal, and the reader of the number texts that are written
before they are hashed.  Both are outside the repository; State relies on the hash being a
function into 64 lowercase hex digits. -/
class Sha256 extends NumberReader where
  digest : HashInput → String
  digest_lower : ∀ input, isLowerSha256 (digest input) = true

/-- The digest of nothing for every input, for computed runs that compare none. -/
@[reducible] def constantSha256 : Sha256 where
  toNumberReader := exactReader
  digest _ := "e3b0c44298fc1c149afbf4c8996fb92427ae41e4649b934ca495991b7852b855"
  digest_lower _ := by decide +kernel

/-- `bounded_serialized_sha256`. -/
def boundedSerializedSha256 [Sha256] (value : Json) (maximum : Nat) :
    Except BoundedJsonError String := do
  let _ ← boundedSerializedSize value maximum
  .ok (Sha256.digest (.json value))

/-! ## Texts -/

/-- `char::is_whitespace`, the Unicode `White_Space` property. -/
def isWhitespace (c : Char) : Bool :=
  let v := c.val.toNat
  (9 ≤ v && v ≤ 13) || v == 0x20 || v == 0x85 || v == 0xA0 || v == 0x1680 ||
    (0x2000 ≤ v && v ≤ 0x200A) || v == 0x2028 || v == 0x2029 || v == 0x202F || v == 0x205F ||
    v == 0x3000

/-- `str::trim`. -/
def trim (s : String) : String :=
  String.ofList ((((s.toList.dropWhile isWhitespace).reverse).dropWhile isWhitespace).reverse)

/-- `value.trim().is_empty()`. -/
def isBlank (s : String) : Bool :=
  s.toList.all isWhitespace

/-- `value.chars().any(char::is_control)`. -/
def hasControl (s : String) : Bool :=
  s.toList.any isControl

/-- The `{:?}` text of a string, as error messages quote a rejected name; of the characters
that do not print it knows the controls. -/
def debugText (s : String) : String :=
  let escape (c : Char) : List Char :=
    if c = '"' then ['\\', '"']
    else if c = '\\' then ['\\', '\\']
    else if c = '\n' then ['\\', 'n']
    else if c = '\r' then ['\\', 'r']
    else if c = '\t' then ['\\', 't']
    else if c.val = 0 then ['\\', '0']
    else if isControl c then
      ['\\', 'u', '\x7b'] ++ Nat.toDigits 16 c.val.toNat ++ ['\x7d']
    else [c]
  "\"" ++ String.ofList (s.toList.flatMap escape) ++ "\""

/-- Lowercase letters, digits, `_`, `-` and `.`. -/
def isNameChar (c : Char) : Bool :=
  c.isLower || c.isDigit || c = '_' || c = '-' || c = '.'

/-- A text of `1..=maximum` bytes, every character admitted. -/
def boundedText (admitted : Char → Bool) (maximum : Nat) (value : String) : Bool :=
  !value.isEmpty && decide (value.utf8ByteSize ≤ maximum) && value.toList.all admitted

def validateCapabilityName (kind name : String) : Except HarnessError Unit :=
  rejectIf (!boundedText isNameChar 64 name)
    (.invalidCapability (kind ++ " name " ++ debugText name ++
      " must be 1-64 lowercase ASCII characters, digits, '.', '_' or '-'"))

def validateModelId (id : String) : Except HarnessError Unit :=
  rejectIf (!boundedText (fun c => c.isAlphanum || c = '.' || c = '_' || c = '-' || c = '/' ||
      c = ':') 128 id)
    (.invalidCapability ("model id " ++ debugText id ++
      " must be 1-128 portable ASCII identity characters"))

/-- `validate_portable_coordinate` and the test of `require_portable_id`. -/
def isPortable (value : String) : Bool :=
  boundedText (fun c => c.isAlphanum || c = '.' || c = '_' || c = '-' || c = '/' || c = ':' ||
    c = '+') 128 value

def validatePortableCoordinate (kind value : String) : Except HarnessError Unit :=
  rejectIf (!isPortable value)
    (.invalidConfiguration (kind ++ " must be 1-128 portable ASCII bytes"))

def maxCapabilityOriginIdBytes : Nat := 256

def validateCapabilityOrigin : CapabilityOrigin → Except HarnessError Unit
  | .builtIn => .ok ()
  | .trustedExtension id | .external id =>
    rejectIf (isBlank id || decide (maxCapabilityOriginIdBytes < id.utf8ByteSize) ||
        hasControl id)
      (.invalidCapability "capability origin id must be 1-256 non-control bytes")

/-- `validate_outcome`: the summary of a pass or the reason of a failure. -/
def validateOutcome (verifier : String) (outcome : VerificationOutcome) :
    Except HarnessError Unit :=
  let check (field value : String) : Except HarnessError Unit := do
    rejectIf (isBlank value)
      (.verification (verifier ++ " returned an empty " ++ field))
    rejectIf (decide (4096 < value.utf8ByteSize))
      (.verification (verifier ++ " returned a " ++ field ++ " larger than 4096 bytes"))
  match outcome with
  | .passed (some summary) => check "summary" summary
  | .passed none => .ok ()
  | .failed reason _ => check "reason" reason

/-! ## Actors and tenants -/

def validateActorIdentity (kind field value : String) : Except String Unit :=
  rejectIf (isBlank value || decide (256 < value.utf8ByteSize) || hasControl value)
    (kind ++ " " ++ field ++ " must be 1-256 non-control bytes")

def validateTenantId (value : String) : Except HarnessError Unit :=
  rejectIf (!boundedText (fun c => c.isAlphanum || c = '.' || c = '_' || c = '-' || c = ':')
      128 value)
    (.invalidConfiguration ("tenant identity must be 1-128 case-sensitive ASCII letters, " ++
      "digits, '.', '_', '-' or ':'"))

namespace ActorIdentity

def validateShapeMessage (kind : String) : ActorIdentity → Except String Unit
  | localProcess | unattributedLegacy => .ok ()
  | authenticated authority subject => do
    validateActorIdentity kind "authority" authority
    validateActorIdentity kind "subject" subject

def validateCurrentMessage (kind : String) (actor : ActorIdentity) : Except String Unit := do
  actor.validateShapeMessage kind
  rejectIf (actor == unattributedLegacy)
    (kind ++ " cannot use the legacy unattributed identity")

def validateCurrent (kind : String) (actor : ActorIdentity) : Except HarnessError Unit :=
  (actor.validateCurrentMessage kind).mapError .approval

def validateCurrentState (kind : String) (actor : ActorIdentity) : Except HarnessError Unit :=
  (actor.validateCurrentMessage kind).mapError .state

end ActorIdentity

/-- A tenant is checked only when there is one. -/
def validateTenant (tenantId : Option String) : Except HarnessError Unit :=
  checkSome validateTenantId tenantId

def AuthorityContext.validateCurrent (kind : String) (authority : AuthorityContext) :
    Except HarnessError Unit := do
  authority.actor.validateCurrent kind
  validateTenant authority.tenantId

/-- `AuthorityContext::new`. -/
def AuthorityContext.new (actor : ActorIdentity) (tenantId : Option String) :
    Except HarnessError AuthorityContext := do
  AuthorityContext.validateCurrent "authority context" ⟨actor, tenantId⟩
  .ok ⟨actor, tenantId⟩

/-! ## Evidence records -/

def ExecutionBinding.validate (b : ExecutionBinding) : Except HarnessError Unit := do
  validateCapabilityName "execution binding issuer" b.issuer
  validatePortableCoordinate "execution binding name" b.name
  validatePortableCoordinate "execution binding version" b.version
  rejectIf (!isLowerSha256 b.configurationSha256 || !isLowerSha256 b.environmentSha256 ||
      b.revision == 0)
    (.invalidConfiguration ("execution binding requires two lowercase SHA-256 digests and " ++
      "a non-zero revision"))
  let _ ← AuthorityContext.new .localProcess b.tenantId
  rejectIf (decide (2048 < b.toJson.encodedLen))
    (.invalidConfiguration "execution binding exceeds 2048 bytes")

def validateConnectorText (kind value : String) (maximum : Nat) : Except HarnessError Unit :=
  rejectIf (value.isEmpty || decide (maximum < value.utf8ByteSize) || trim value != value ||
      hasControl value)
    (.invalidConfiguration s!"{kind} must be 1-{maximum} trimmed non-control bytes")

def ConnectorEvidenceClaim.validate (c : ConnectorEvidenceClaim) : Except HarnessError Unit := do
  validatePortableCoordinate "Connector evidence source" c.source
  validateConnectorText "Connector evidence resource" c.resource 2048
  validateConnectorText "Connector evidence version" c.version 512
  rejectIf (c.observedAtMs == 0 || c.validUntilMs.any (· < c.observedAtMs))
    (.invalidConfiguration ("Connector evidence requires a non-zero observation time and a " ++
      "non-decreasing freshness boundary"))
  checkSome (validateConnectorText "Connector evidence idempotency key" · 512) c.idempotencyKey

def ConnectorEvidence.validate (e : ConnectorEvidence) : Except HarnessError Unit := do
  validateCapabilityName "Connector Tool" e.connector
  validateCapabilityOrigin e.connectorOrigin
  e.authority.validateCurrent "Connector evidence authority"
  rejectIf (!isLowerSha256 e.outputSha256)
    (.invalidConfiguration "Connector evidence output digest must be lowercase SHA-256")
  e.claim.validate

def maxModelContinuationItems : Nat := 64
def maxModelContinuationBytes : Nat := 1048576

def ModelContinuation.validate (c : ModelContinuation) : Except HarnessError Unit := do
  rejectIf (!boundedText isNameChar 64 c.format)
    (.model "model continuation format must be 1-64 lowercase portable ASCII bytes")
  rejectIf (c.items.isEmpty || decide (maxModelContinuationItems < c.items.length))
    (.model "model continuation must contain 1-64 items")
  checkAll (fun item => (validateValueShape item).mapError fun _ =>
    .model "model continuation exceeds the supported JSON depth or node count") c.items
  let _ ← (boundedSerializedSize c.toJson maxModelContinuationBytes).mapError fun _ =>
    HarnessError.model "model continuation exceeds 1048576 bytes"
  .ok ()

end YHarness.Kernel

/-
# YHarness.Skill.Resolution -- the Skills that a request needs

`SkillEngine::resolve` of `src/skill/mod.rs`: a depth-first visit of the dependencies of the
requested Skills, which checks each of them, and then a walk over the visited ones within the
token budget.  The visit is a `Search`; with its rules a resolution is exact
(`resolve_exact`): it finds what the request needs, or something that is needed is not there,
not trusted, on a cycle or too large.  The type `V` is that of semantic versions.
-/
import YHarness.Lib.DepthFirst
import YHarness.Lib.Ledger
import YHarness.Context.Scans

namespace YHarness.Skill

open YHarness.Lib YHarness.Kernel
open YHarness.Runtime (ContextBlock ContextSource)
open YHarness.Context (checkedAdd checkedAdd_eq_some)

set_option autoImplicit false
set_option linter.unusedSectionVars false

def maxCapabilityRegistryEntries : Nat := 4096
/-! ## Trust -/

structure SkillKeyRevocation where
  revokedAtMs : UInt64

inductive SkillTransparencyRequirement where
  | optional | required
deriving DecidableEq

structure SkillPublisherPolicy where
  notBeforeMs : Option UInt64
  notAfterMs : Option UInt64
  transparency : SkillTransparencyRequirement

structure TrustedPublisher where
  policy : SkillPublisherPolicy
  revocation : Option SkillKeyRevocation

structure TrustedLog where
  revocation : Option SkillKeyRevocation

structure SkillTrustStore where
  publishers : String → Option TrustedPublisher
  logs : String → Option TrustedLog

structure VerifiedSkillTransparency where
  logId : String
  entryId : String
  integratedAtMs : UInt64

def validateAnchorStatus (kind id : String) (notBeforeMs notAfterMs : Option UInt64)
    (revocation : Option SkillKeyRevocation) (observedAtMs : UInt64) :
    Except HarnessError Unit := do
  rejectIf (notBeforeMs.any fun notBefore => decide (observedAtMs < notBefore))
    (.skill s!"{kind} {id} is not valid yet")
  rejectIf (notAfterMs.any fun notAfter => decide (notAfter ≤ observedAtMs))
    (.skill s!"{kind} {id} has expired")
  rejectIf (revocation.any fun revocation => decide (revocation.revokedAtMs ≤ observedAtMs))
    (.skill s!"{kind} {id} is revoked")

def SkillTrustStore.revalidateRegistered (trust : SkillTrustStore) (publisherKeyId : String)
    (transparencyLogId : Option String) (observedAtMs : UInt64) : Except HarnessError Unit := do
  let publisher ← orError (.skill s!"publisher key {publisherKeyId} is not trusted")
    (trust.publishers publisherKeyId)
  validateAnchorStatus "publisher key" publisherKeyId publisher.policy.notBeforeMs
    publisher.policy.notAfterMs publisher.revocation observedAtMs
  rejectIf (publisher.policy.transparency == .required && transparencyLogId.isNone)
    (.skill s!"publisher key {publisherKeyId} requires a transparency receipt")
  match transparencyLogId with
  | none => .ok ()
  | some logId => do
    let log ← orError (.skill s!"transparency log {logId} is not trusted") (trust.logs logId)
    validateAnchorStatus "transparency log" logId none none log.revocation observedAtMs

/-! ## Skills -/

variable (V : Type)

structure SkillId where
  name : String
  version : V
deriving DecidableEq

structure SkillDependency where
  name : String
  version : V

/-- `SkillId::from`. -/
def SkillDependency.id {V : Type} (dependency : SkillDependency V) : SkillId V :=
  ⟨dependency.name, dependency.version⟩

structure SkillManifest where
  name : String
  version : V
  estimatedTokens : Nat
  dependencies : List (SkillDependency V)
  requiredTools : List String

structure SkillPackage where
  manifest : SkillManifest V
  instructions : String
  contentSha256 : String

def SkillPackage.id {V : Type} (package : SkillPackage V) : SkillId V :=
  ⟨package.manifest.name, package.manifest.version⟩

structure RegisteredSkill where
  id : SkillId V
  origin : CapabilityOrigin
  package : SkillPackage V
  publisherKeyId : Option String
  transparency : Option VerifiedSkillTransparency
  publisherTrust : Option SkillTrustStore

/-- A registry has one Skill for each identity, that of its package. -/
structure SkillRegistry where
  skills : List (RegisteredSkill V)
  contentBytes : Nat
  keyed : ∀ skill ∈ skills, skill.id = skill.package.id
  distinct : (skills.map (·.id)).Nodup

structure ResolvedSkill where
  id : SkillId V
  contentSha256 : String
  origin : CapabilityOrigin
  publisherKeyId : Option String
  transparency : Option VerifiedSkillTransparency

structure ResolvedSkillTrust where
  trust : SkillTrustStore
  publisherKeyId : String
  transparencyLogId : Option String

structure ResolvedSkillSet where
  skills : List (ResolvedSkill V)
  context : List ContextBlock
  estimatedTokens : Nat
  trustChecks : List ResolvedSkillTrust

variable {V} [LinearOrder V] [ToString V]

def SkillId.text (id : SkillId V) : String :=
  s!"Skill {id.name}@{id.version}"

/-- The derived order of identities. -/
def SkillId.le (a b : SkillId V) : Bool :=
  decide (a.name < b.name) || (a.name == b.name && decide (a.version ≤ b.version))

def validateRegistryGrowth (kind : String) (current additional : Nat) : Except HarnessError Unit := do
  let next ← orError (.invalidCapability s!"{kind} registry entry count overflow")
    (checkedAdd current additional)
  rejectIf (decide (maxCapabilityRegistryEntries < next))
    (.invalidCapability s!"{kind} registry exceeds {maxCapabilityRegistryEntries} entries")

namespace SkillRegistry

def get (registry : SkillRegistry V) (id : SkillId V) : Option (RegisteredSkill V) :=
  registry.skills.find? fun skill => skill.id == id

end SkillRegistry

/-! ## Resolving -/

def validateRegisteredSkillTrust (registered : RegisteredSkill V) (observedAtMs : UInt64) :
    Except HarnessError Unit :=
  match registered.origin, registered.publisherKeyId, registered.publisherTrust with
  | .external _, some keyId, some trust =>
    trust.revalidateRegistered keyId (registered.transparency.map (·.logId)) observedAtMs
  | .external _, _, _ =>
    .error (.skill s!"external {registered.id.text} has no live publisher trust")
  | _, none, none => .ok ()
  | _, _, _ => .error (.skill s!"non-external {registered.id.text} has external trust metadata")

/-- What `visit` checks of a Skill before it visits its dependencies, which it returns;
`tools` says which Tools are registered. -/
def checkSkill (registry : SkillRegistry V) (tools : String → Bool) (observedAtMs : UInt64)
    (id : SkillId V) : Except HarnessError (List (SkillId V)) := do
  let registered ← orError (.skill s!"{id.text} is not registered") (registry.get id)
  validateRegisteredSkillTrust registered observedAtMs
  checkAll (fun tool => rejectIf (!tools tool) (.skill s!"{id.text} requires missing tool {tool}"))
    registered.package.manifest.requiredTools
  .ok (registered.package.manifest.dependencies.map (·.id))

/-- `visit`, from the sets `visiting` and `visited` and the list `ordered`. -/
def visit (registry : SkillRegistry V) (tools : String → Bool) (observedAtMs : UInt64) :
    Search (SkillId V) HarnessError :=
  ⟨checkSkill registry tools observedAtMs,
    fun id => .skill s!"Skill dependency cycle includes {id.text}"⟩

/-- The sorted roots, each once. -/
def rootsOf (requested : List (SkillId V)) : List (SkillId V) :=
  (requested.mergeSort SkillId.le).dedup

/-- What a resolution says of a Skill. -/
def RegisteredSkill.resolved (registered : RegisteredSkill V) (id : SkillId V) : ResolvedSkill V :=
  ⟨id, registered.package.contentSha256, registered.origin, registered.publisherKeyId,
    registered.transparency⟩

def RegisteredSkill.context (registered : RegisteredSkill V) (id : SkillId V) : ContextBlock :=
  ⟨.skill id.name (toString id.version) registered.package.contentSha256,
    registered.package.instructions, registered.package.manifest.estimatedTokens⟩

def RegisteredSkill.trustCheck (registered : RegisteredSkill V) : Option ResolvedSkillTrust :=
  match registered.publisherTrust, registered.publisherKeyId with
  | some trust, some keyId => some ⟨trust, keyId, registered.transparency.map (·.logId)⟩
  | _, _ => none

/-- One Skill of the walk over `ordered`. -/
def resolveSkill (registry : SkillRegistry V) (budgetTokens : UInt64)
    (resolved : ResolvedSkillSet V) (id : SkillId V) : Except HarnessError (ResolvedSkillSet V) := do
  let registered ← orError (.skill s!"resolved {id.text} disappeared") (registry.get id)
  let estimatedTokens ← orError (.skill "Skill token budget overflow")
    (checkedAdd resolved.estimatedTokens registered.package.manifest.estimatedTokens)
  rejectIf (decide (budgetTokens.toNat < estimatedTokens))
    (.skill s!"resolved Skills require {estimatedTokens} tokens, budget is {budgetTokens.toNat}")
  .ok ⟨resolved.skills ++ [registered.resolved id], resolved.context ++ [registered.context id],
    estimatedTokens, resolved.trustChecks ++ registered.trustCheck.toList⟩

/-- `SkillEngine::resolve`; a visit is no deeper than the registry is large. -/
def resolve (registry : SkillRegistry V) (tools : String → Bool) (observedAtMs : UInt64)
    (budgetTokens : UInt64) (requested : List (SkillId V)) :
    Except HarnessError (ResolvedSkillSet V) := do
  validateRegistryGrowth "requested Skill" 0 requested.length
  let walk ← (visit registry tools observedAtMs).visitAll (registry.skills.length + 1)
    (rootsOf requested)
  walk.ordered.foldlM (resolveSkill registry budgetTokens) ⟨[], [], 0, []⟩

/-! ## What a request needs -/

/-- An anchor counts at an instant. -/
structure AnchorValid (notBeforeMs notAfterMs : Option UInt64)
    (revocation : Option SkillKeyRevocation) (observedAtMs : UInt64) : Prop where
  started : ∀ notBefore ∈ notBeforeMs, notBefore ≤ observedAtMs
  running : ∀ notAfter ∈ notAfterMs, observedAtMs < notAfter
  unrevoked : ∀ revoked ∈ revocation, observedAtMs < revoked.revokedAtMs

/-- A publisher vouches for a Skill, by a log where it has a receipt of one. -/
structure SkillTrustStore.Vouches (trust : SkillTrustStore) (keyId : String)
    (logId : Option String) (observedAtMs : UInt64) (publisher : TrustedPublisher) : Prop where
  known : trust.publishers keyId = some publisher
  valid : AnchorValid publisher.policy.notBeforeMs publisher.policy.notAfterMs publisher.revocation
    observedAtMs
  receipted : publisher.policy.transparency = .required → logId ≠ none
  logged : ∀ id ∈ logId, ∃ log, trust.logs id = some log ∧
    AnchorValid none none log.revocation observedAtMs

/-- A Skill is trusted: an external one by a publisher, any other without one. -/
def RegisteredSkill.TrustedAt (registered : RegisteredSkill V) (observedAtMs : UInt64) : Prop :=
  match registered.origin with
  | .external _ => ∃ keyId trust publisher, registered.publisherKeyId = some keyId ∧
      registered.publisherTrust = some trust ∧
      trust.Vouches keyId (registered.transparency.map (·.logId)) observedAtMs publisher
  | _ => registered.publisherKeyId = none ∧ registered.publisherTrust = none

namespace SkillRegistry

/-- A Skill is registered, trusted and has its Tools. -/
def Usable (registry : SkillRegistry V) (tools : String → Bool) (observedAtMs : UInt64)
    (id : SkillId V) : Prop :=
  ∃ registered, registry.get id = some registered ∧ registered.TrustedAt observedAtMs ∧
    ∀ tool ∈ registered.package.manifest.requiredTools, tools tool = true

def Depends (registry : SkillRegistry V) (a b : SkillId V) : Prop :=
  ∃ registered, registry.get a = some registered ∧
    ∃ dependency ∈ registered.package.manifest.dependencies, b = dependency.id

/-- The request needs a Skill. -/
def Needs (registry : SkillRegistry V) (requested : List (SkillId V)) (b : SkillId V) : Prop :=
  ∃ root ∈ requested, Relation.ReflTransGen registry.Depends root b

open Classical in
/-- The tokens of the Skills that the request needs. -/
noncomputable def neededTokens (registry : SkillRegistry V) (requested : List (SkillId V)) : Nat :=
  ((registry.skills.filter fun skill => registry.Needs requested skill.id).map
    (·.package.manifest.estimatedTokens)).sum

end SkillRegistry

/-! ## What the checks find -/

variable {requested : List (SkillId V)} {observedAtMs : UInt64} {a b : SkillId V} {id : SkillId V}

theorem validateAnchorStatus_eq_ok {kind id : String} {notBeforeMs notAfterMs : Option UInt64}
    {revocation : Option SkillKeyRevocation} :
    validateAnchorStatus kind id notBeforeMs notAfterMs revocation observedAtMs = .ok () ↔
      AnchorValid notBeforeMs notAfterMs revocation observedAtMs := by
  simp only [validateAnchorStatus, seq_eq_ok, rejectIf_eq_ok, Option.any_eq_false,
    decide_eq_false_iff_not, UInt64.not_lt, UInt64.not_le]
  constructor
  · rintro ⟨started, running, unrevoked⟩
    exact ⟨started, running, unrevoked⟩
  · rintro ⟨started, running, unrevoked⟩
    exact ⟨started, running, unrevoked⟩

theorem revalidateRegistered_eq_ok {trust : SkillTrustStore} {keyId : String}
    {logId : Option String} :
    trust.revalidateRegistered keyId logId observedAtMs = .ok () ↔
      ∃ publisher, trust.Vouches keyId logId observedAtMs publisher := by
  unfold SkillTrustStore.revalidateRegistered
  rw [bind_eq_ok]
  refine exists_congr fun publisher => ?_
  rw [orError_eq_ok, seq_eq_ok, validateAnchorStatus_eq_ok, seq_eq_ok, rejectIf_eq_ok,
    Bool.and_eq_false_iff, beq_eq_false_iff_ne]
  have logged : (match logId with
      | none => Except.ok ()
      | some logId => do
        let log ← orError (HarnessError.skill s!"transparency log {logId} is not trusted")
          (trust.logs logId)
        validateAnchorStatus "transparency log" logId none none log.revocation observedAtMs) =
        .ok () ↔ ∀ id ∈ logId, ∃ log, trust.logs id = some log ∧
          AnchorValid none none log.revocation observedAtMs := by
    cases logId with
    | none => simp
    | some id =>
      simp only [bind_eq_ok, orError_eq_ok, validateAnchorStatus_eq_ok, Option.mem_some_iff,
        forall_eq']
  rw [logged]
  constructor
  · rintro ⟨known, valid, receipted, logged⟩
    refine ⟨known, valid, fun required absent => ?_, logged⟩
    rcases receipted with optional | given
    · exact optional required
    · rw [absent] at given
      cases given
  · rintro ⟨known, valid, receipted, logged⟩
    refine ⟨known, valid, ?_, logged⟩
    by_cases required : publisher.policy.transparency = .required
    · exact .inr (Option.isNone_eq_false_iff.2 (Option.isSome_iff_ne_none.2 (receipted required)))
    · exact .inl required

theorem validateRegisteredSkillTrust_eq_ok {registered : RegisteredSkill V} :
    validateRegisteredSkillTrust registered observedAtMs = .ok () ↔
      registered.TrustedAt observedAtMs := by
  unfold validateRegisteredSkillTrust RegisteredSkill.TrustedAt
  cases registered.origin with
  | external id =>
    cases registered.publisherKeyId with
    | none => simp
    | some keyId =>
      cases registered.publisherTrust with
      | none => simp
      | some trust => simp [revalidateRegistered_eq_ok]
  | builtIn =>
    cases registered.publisherKeyId <;> cases registered.publisherTrust <;> simp
  | trustedExtension id =>
    cases registered.publisherKeyId <;> cases registered.publisherTrust <;> simp

variable {registry : SkillRegistry V} {tools : String → Bool} {observedAtMs : UInt64}

/-- A Skill passes its checks exactly when it is usable, and names what it depends on. -/
theorem checkSkill_eq_ok {dependencies : List (SkillId V)} :
    checkSkill registry tools observedAtMs id = .ok dependencies ↔
      registry.Usable tools observedAtMs id ∧ ∃ registered, registry.get id = some registered ∧
        dependencies = registered.package.manifest.dependencies.map (·.id) := by
  unfold checkSkill
  rw [bind_eq_ok]
  simp only [seq_eq_ok, orError_eq_ok, validateRegisteredSkillTrust_eq_ok, checkAll_eq_ok,
    rejectIf_eq_ok, ok_eq_ok, Bool.not_eq_false']
  constructor
  · rintro ⟨registered, found, trusted, equipped, rfl⟩
    exact ⟨⟨registered, found, trusted, equipped⟩, registered, found, rfl⟩
  · rintro ⟨⟨registered, found, trusted, equipped⟩, _, again, rfl⟩
    rw [found] at again
    cases again
    exact ⟨registered, found, trusted, equipped, rfl⟩

theorem edge_iff :
    (visit registry tools observedAtMs).Edge a b ↔
      registry.Usable tools observedAtMs a ∧ registry.Depends a b := by
  constructor
  · rintro ⟨_, checked, among⟩
    obtain ⟨usable, registered, found, rfl⟩ := checkSkill_eq_ok.1 checked
    obtain ⟨dependency, member, rfl⟩ := List.mem_map.1 among
    exact ⟨usable, registered, found, dependency, member, rfl⟩
  · rintro ⟨usable, registered, found, dependency, member, rfl⟩
    exact ⟨_, checkSkill_eq_ok.2 ⟨usable, registered, found, rfl⟩, List.mem_map_of_mem member⟩

theorem mem_rootsOf :
    id ∈ rootsOf requested ↔ id ∈ requested := by
  rw [rootsOf, List.mem_dedup, List.mem_mergeSort]

theorem depends_of_edge (a b : SkillId V) (edge : (visit registry tools observedAtMs).Edge a b) :
    registry.Depends a b :=
  (edge_iff.1 edge).2

/-- Along usable Skills every dependency is an edge. -/
theorem leads_of_depends
    (usable : ∀ b, (visit registry tools observedAtMs).Reaches (rootsOf requested) b →
      registry.Usable tools observedAtMs b)
    (reached : (visit registry tools observedAtMs).Reaches (rootsOf requested) a)
    (leads : Relation.ReflTransGen registry.Depends a b) :
    (visit registry tools observedAtMs).Reaches (rootsOf requested) b ∧
      Relation.ReflTransGen (visit registry tools observedAtMs).Edge a b := by
  induction leads with
  | refl => exact ⟨reached, .refl⟩
  | tail _ depends ih =>
    obtain ⟨⟨root, among, path⟩, inner⟩ := ih
    have edge := edge_iff.2 ⟨usable _ ⟨root, among, path⟩, depends⟩
    exact ⟨⟨root, among, path.tail edge⟩, inner.tail edge⟩

theorem reaches_iff
    (usable : ∀ b, (visit registry tools observedAtMs).Reaches (rootsOf requested) b →
      registry.Usable tools observedAtMs b) {b : SkillId V} :
    (visit registry tools observedAtMs).Reaches (rootsOf requested) b ↔
      registry.Needs requested b := by
  constructor
  · rintro ⟨root, among, leads⟩
    exact ⟨root, mem_rootsOf.1 among, Relation.ReflTransGen.mono depends_of_edge _ _ leads⟩
  · rintro ⟨root, among, leads⟩
    exact (leads_of_depends usable ⟨root, mem_rootsOf.2 among, .refl⟩ leads).1

/-- What the roots lead to is sound exactly when all that is needed is usable and on no cycle. -/
theorem sound_iff (requested : List (SkillId V)) :
    (∀ b, (visit registry tools observedAtMs).Reaches (rootsOf requested) b →
        (visit registry tools observedAtMs).Sound b) ↔
      (∀ b, registry.Needs requested b → registry.Usable tools observedAtMs b) ∧
        ∀ b, registry.Needs requested b → ¬ Relation.TransGen registry.Depends b b := by
  constructor
  · intro sound
    have usable : ∀ b, (visit registry tools observedAtMs).Reaches (rootsOf requested) b →
        registry.Usable tools observedAtMs b := by
      intro b reached
      obtain ⟨_, checked⟩ := (sound b reached).1
      exact (checkSkill_eq_ok.1 checked).1
    refine ⟨fun b needs => usable b ((reaches_iff usable).2 needs), fun b needs cycle => ?_⟩
    have reached := (reaches_iff usable).2 needs
    obtain ⟨c, depends, leads⟩ := Relation.TransGen.head'_iff.1 cycle
    have edge := edge_iff.2 ⟨usable b reached, depends⟩
    obtain ⟨root, among, path⟩ := reached
    exact (sound b ⟨root, among, path⟩).2 (Relation.TransGen.head'_iff.2
      ⟨c, edge, (leads_of_depends usable ⟨root, among, path.tail edge⟩ leads).2⟩)
  · rintro ⟨usable, acyclic⟩ b ⟨root, among, leads⟩
    have needs : registry.Needs requested b := ⟨root, mem_rootsOf.1 among,
      Relation.ReflTransGen.mono depends_of_edge _ _ leads⟩
    obtain ⟨registered, found, _⟩ := usable b needs
    exact ⟨⟨_, checkSkill_eq_ok.2 ⟨usable b needs, registered, found, rfl⟩⟩, fun cycle =>
      acyclic b needs (Relation.TransGen.mono depends_of_edge _ _ cycle)⟩

/-! ## Resolving a request -/

def SkillRegistry.tokensOf (registry : SkillRegistry V) (id : SkillId V) : Nat :=
  ((registry.get id).map (·.package.manifest.estimatedTokens)).getD 0

/-- What a resolution says of the registered ones of some identities, in their order. -/
def SkillRegistry.resolved (registry : SkillRegistry V) (ids : List (SkillId V)) :
    ResolvedSkillSet V where
  skills := ids.filterMap fun id => (registry.get id).map (·.resolved id)
  context := ids.filterMap fun id => (registry.get id).map (·.context id)
  estimatedTokens := (ids.map registry.tokensOf).sum
  trustChecks := ids.filterMap fun id => (registry.get id).bind (·.trustCheck)

/-- The walk over the listed Skills fails only at the budget. -/
theorem foldlM_resolveSkill {budgetTokens : UInt64} {before ids : List (SkillId V)}
    (known : ∀ id ∈ ids, ∃ registered, registry.get id = some registered)
    (within : (registry.resolved before).estimatedTokens ≤ budgetTokens.toNat)
    {result : ResolvedSkillSet V} :
    ids.foldlM (resolveSkill registry budgetTokens) (registry.resolved before) = .ok result ↔
      (registry.resolved (before ++ ids)).estimatedTokens ≤ budgetTokens.toNat ∧
        result = registry.resolved (before ++ ids) := by
  induction ids generalizing before with
  | nil =>
    rw [List.append_nil, List.foldlM_nil]
    exact ⟨fun same => ⟨within, ok_eq_ok.1 same⟩, fun ⟨_, same⟩ => ok_eq_ok.2 same⟩
  | cons id ids ih =>
    obtain ⟨registered, found⟩ := known id List.mem_cons_self
    have rest := fun other member => known other (List.mem_cons_of_mem id member)
    have total : (registry.resolved (before ++ [id])).estimatedTokens =
        (registry.resolved before).estimatedTokens +
          registered.package.manifest.estimatedTokens := by
      simp [SkillRegistry.resolved, SkillRegistry.tokensOf, found]
    have step : ∀ {next}, resolveSkill registry budgetTokens (registry.resolved before) id = .ok next ↔
        (registry.resolved (before ++ [id])).estimatedTokens ≤ budgetTokens.toNat ∧
          next = registry.resolved (before ++ [id]) := by
      intro next
      have written : registry.resolved (before ++ [id]) =
          ⟨(registry.resolved before).skills ++ [registered.resolved id],
            (registry.resolved before).context ++ [registered.context id],
            (registry.resolved (before ++ [id])).estimatedTokens,
            (registry.resolved before).trustChecks ++ registered.trustCheck.toList⟩ := by
        have last : List.filterMap (fun id => (registry.get id).bind (·.trustCheck)) [id] =
            registered.trustCheck.toList := by
          cases check : registered.trustCheck <;> simp [found, check]
        simp only [SkillRegistry.resolved, List.filterMap_append, last]
        simp [found]
      have small : budgetTokens.toNat ≤ Context.usizeMax := Nat.le_of_lt_succ budgetTokens.toNat_lt
      unfold resolveSkill
      rw [found, orError, ok_bind, bind_eq_ok]
      simp only [← total, seq_eq_ok, orError_eq_ok, Context.checkedAdd_eq_some, rejectIf_eq_ok,
        decide_eq_false_iff_not, Nat.not_lt, ok_eq_ok]
      constructor
      · rintro ⟨_, ⟨rfl, _⟩, fits, rfl⟩
        exact ⟨fits, written.symm ▸ rfl⟩
      · rintro ⟨fits, rfl⟩
        exact ⟨_, ⟨rfl, fits.trans small⟩, fits, written⟩
    have grown : (registry.resolved (before ++ [id])).estimatedTokens ≤
        (registry.resolved (before ++ id :: ids)).estimatedTokens := by
      simp [SkillRegistry.resolved]
    rw [List.foldlM_cons, bind_eq_ok]
    have split : before ++ id :: ids = before ++ [id] ++ ids := by simp
    constructor
    · rintro ⟨next, first, last⟩
      obtain ⟨fits, rfl⟩ := step.1 first
      rw [split]
      exact (ih rest fits).1 last
    · rintro ⟨fits, same⟩
      have fits' := grown.trans fits
      rw [split] at fits same
      exact ⟨_, step.2 ⟨fits', rfl⟩, (ih rest fits').2 ⟨fits, same⟩⟩

theorem SkillRegistry.get_eq_some {skill : RegisteredSkill V} :
    registry.get id = some skill ↔ skill ∈ registry.skills ∧ skill.id = id :=
  find?_key_eq_some registry.distinct

theorem SkillId.le_iff :
    a.le b = true ↔ a.name < b.name ∨ (a.name = b.name ∧ a.version ≤ b.version) := by
  simp [SkillId.le]

/-- The roots do not depend on the order and the repetitions of a request. -/
theorem rootsOf_congr {requested requested' : List (SkillId V)}
    (same : ∀ id, id ∈ requested' ↔ id ∈ requested) : rootsOf requested' = rootsOf requested := by
  have sorted : ∀ ids : List (SkillId V), (rootsOf ids).Pairwise fun a b => a.le b = true := by
    intro ids
    refine List.Pairwise.sublist (List.dedup_sublist _) (List.pairwise_mergeSort ?_ ?_ ids)
    · simp only [SkillId.le_iff]
      rintro a b c (less | ⟨same, small⟩) (less' | ⟨same', small'⟩)
      · exact .inl (less.trans less')
      · exact .inl (same' ▸ less)
      · exact .inl (same ▸ less')
      · exact .inr ⟨same.trans same', small.trans small'⟩
    · intro a b
      rw [Bool.or_eq_true, SkillId.le_iff, SkillId.le_iff]
      rcases lt_trichotomy a.name b.name with less | equal | more
      · exact .inl (.inl less)
      · rcases le_total a.version b.version with small | large
        · exact .inl (.inr ⟨equal, small⟩)
        · exact .inr (.inr ⟨equal.symm, large⟩)
      · exact .inr (.inl more)
  have permuted : (rootsOf requested').Perm (rootsOf requested) := by
    refine (List.perm_ext_iff_of_nodup (List.nodup_dedup _) (List.nodup_dedup _)).2 fun id => ?_
    exact mem_rootsOf.trans ((same id).trans mem_rootsOf.symm)
  refine permuted.eq_of_pairwise ?_ (sorted _) (sorted _)
  intro a b _ _ left right
  rw [SkillId.le_iff] at left right
  have names : a.name = b.name := by
    rcases left with less | ⟨equal, _⟩
    · rcases right with less' | ⟨equal, _⟩
      · exact absurd less' less.asymm
      · exact equal.symm
    · exact equal
  have left := left.resolve_left (names ▸ lt_irrefl _)
  have right := right.resolve_left (names ▸ lt_irrefl _)
  cases a
  cases b
  simp only at names left right
  rw [names, left.2.antisymm right.2]

/-- What a resolution returns: the Skills that the request needs, each once and behind what it
depends on, as they are registered, with the total of their tokens. -/
structure SkillRegistry.Resolves (registry : SkillRegistry V) (requested : List (SkillId V))
    (result : ResolvedSkillSet V) : Prop where
  needed : ∀ b, b ∈ result.skills.map (·.id) ↔ registry.Needs requested b
  once : (result.skills.map (·.id)).Nodup
  behind : ∀ earlier b later, result.skills.map (·.id) = earlier ++ b :: later →
    ∀ c, registry.Depends b c → c ∈ earlier
  registered : result = registry.resolved (result.skills.map (·.id))
  total : result.estimatedTokens = registry.neededTokens requested

theorem sum_tokensOf {requested ids : List (SkillId V)} (once : ids.Nodup)
    (needed : ∀ b, b ∈ ids ↔ registry.Needs requested b)
    (known : ∀ b ∈ ids, ∃ registered, registry.get b = some registered) :
    (ids.map registry.tokensOf).sum = registry.neededTokens requested := by
  classical
  have chosen : ((registry.skills.filter fun skill => registry.Needs requested skill.id).map
      (·.id)).Nodup := registry.distinct.sublist (List.filter_sublist.map _)
  have permuted : ids.Perm ((registry.skills.filter fun skill =>
      registry.Needs requested skill.id).map (·.id)) := by
    refine (List.perm_ext_iff_of_nodup once chosen).2 fun b => ?_
    simp only [needed, List.mem_map, List.mem_filter, decide_eq_true_eq]
    constructor
    · intro needs
      obtain ⟨registered, found⟩ := known b ((needed b).2 needs)
      obtain ⟨member, rfl⟩ := SkillRegistry.get_eq_some.1 found
      exact ⟨registered, ⟨member, needs⟩, rfl⟩
    · rintro ⟨skill, ⟨_, needs⟩, rfl⟩
      exact needs
  rw [(permuted.map registry.tokensOf).sum_eq, List.map_map, SkillRegistry.neededTokens]
  congr 1
  refine List.map_congr_left fun skill member => ?_
  have found := SkillRegistry.get_eq_some.2 ⟨List.mem_of_mem_filter member, rfl⟩
  simp only [Function.comp_apply, SkillRegistry.tokensOf, found, Option.map_some, Option.getD_some]

theorem growth_eq_ok :
    validateRegistryGrowth "requested Skill" 0 requested.length = .ok () ↔
      requested.length ≤ maxCapabilityRegistryEntries := by
  rw [validateRegistryGrowth, bind_eq_ok]
  simp only [orError_eq_ok, Context.checkedAdd_eq_some, rejectIf_eq_ok, decide_eq_false_iff_not,
    Nat.not_lt, Nat.zero_add]
  constructor
  · rintro ⟨_, ⟨rfl, _⟩, few⟩
    exact few
  · intro few
    exact ⟨_, ⟨rfl, few.trans (by decide)⟩, few⟩

theorem map_id_resolved {ids : List (SkillId V)}
    (known : ∀ b ∈ ids, ∃ registered, registry.get b = some registered) :
    (registry.resolved ids).skills.map (·.id) = ids := by
  induction ids with
  | nil => rfl
  | cons id ids ih =>
    obtain ⟨registered, found⟩ := known id List.mem_cons_self
    have rest := ih fun b member => known b (List.mem_cons_of_mem _ member)
    simp only [SkillRegistry.resolved] at rest
    simp [SkillRegistry.resolved, found, rest]
    rfl

/-- A visit of the roots that succeeds lists what the request needs. -/
theorem resolves_of_walk {depth : Nat} {walk : Walk (SkillId V)}
    (walked : (visit registry tools observedAtMs).visitAll depth (rootsOf requested) = .ok walk) :
    (∀ b ∈ walk.ordered, ∃ registered, registry.get b = some registered) ∧
      registry.Resolves requested (registry.resolved walk.ordered) := by
  obtain ⟨listed, reached⟩ := Search.visitAll_lists walked
  have usable : ∀ b, (visit registry tools observedAtMs).Reaches (rootsOf requested) b →
      registry.Usable tools observedAtMs b := by
    intro b leads
    obtain ⟨_, checked⟩ := listed.expanded b ((listed.members b).1 ((reached b).2 leads))
    exact (checkSkill_eq_ok.1 checked).1
  have needed : ∀ b, b ∈ walk.ordered ↔ registry.Needs requested b :=
    fun b => (reached b).trans (reaches_iff usable)
  have known : ∀ b ∈ walk.ordered, ∃ registered, registry.get b = some registered := by
    intro b member
    obtain ⟨registered, found, _⟩ := usable b ((reached b).1 member)
    exact ⟨registered, found⟩
  have ids := map_id_resolved known
  refine ⟨known, ?_, ?_, ?_, ?_, sum_tokensOf listed.nodup needed known⟩
  · rwa [ids]
  · rw [ids]
    exact listed.nodup
  · rw [ids]
    intro earlier b later split c depends
    have member : b ∈ walk.ordered := by
      rw [split]
      exact List.mem_append_right _ List.mem_cons_self
    exact listed.behind earlier b later split c
      (edge_iff.2 ⟨usable b ((reached b).1 member), depends⟩)
  · rw [ids]

/-- A resolution is the visit of the roots, within the budget. -/
theorem resolve_eq_ok {budgetTokens : UInt64} {result : ResolvedSkillSet V} :
    resolve registry tools observedAtMs budgetTokens requested = .ok result ↔
      requested.length ≤ maxCapabilityRegistryEntries ∧
      ∃ walk, (visit registry tools observedAtMs).visitAll (registry.skills.length + 1)
          (rootsOf requested) = .ok walk ∧
        registry.neededTokens requested ≤ budgetTokens.toNat ∧
        result = registry.resolved walk.ordered := by
  rw [resolve, seq_eq_ok, growth_eq_ok, bind_eq_ok]
  refine and_congr_right fun _ => exists_congr fun walk => and_congr_right fun walked => ?_
  obtain ⟨known, resolves⟩ := resolves_of_walk walked
  rw [← resolves.total]
  exact @foldlM_resolveSkill V _ _ registry budgetTokens [] walk.ordered known (Nat.zero_le _) result

/-- The visit of the roots succeeds exactly when all that is needed is usable and on no cycle. -/
theorem walks_iff (requested : List (SkillId V)) :
    (∃ walk, (visit registry tools observedAtMs).visitAll (registry.skills.length + 1)
        (rootsOf requested) = .ok walk) ↔
      (∀ b, registry.Needs requested b → registry.Usable tools observedAtMs b) ∧
        ∀ b, registry.Needs requested b → ¬ Relation.TransGen registry.Depends b b := by
  have known : ∀ b successors, (visit registry tools observedAtMs).expand b = .ok successors →
      b ∈ (registry.skills.map (·.id)).toFinset := by
    intro b successors checked
    obtain ⟨_, registered, found, _⟩ := checkSkill_eq_ok.1 checked
    obtain ⟨member, rfl⟩ := SkillRegistry.get_eq_some.1 found
    exact List.mem_toFinset.2 (List.mem_map_of_mem member)
  have deep : (registry.skills.map (·.id)).toFinset.card < registry.skills.length + 1 := by
    have := (registry.skills.map (·.id)).toFinset_card_le
    rw [List.length_map] at this
    omega
  exact (Search.visitAll_succeeds_iff known deep (rootsOf requested)).trans (sound_iff requested)

/-- **Resolution is exact.**  A request of at most 4096 identities is resolved exactly when every
Skill it needs is usable, none is on a cycle and their tokens fit the budget; the result is what
the request needs, and the same for every order and repetition of the identities. -/
theorem resolve_exact (registry : SkillRegistry V) (tools : String → Bool) (observedAtMs : UInt64)
    (budgetTokens : UInt64) (requested : List (SkillId V))
    (few : requested.length ≤ maxCapabilityRegistryEntries) :
    ((∃ result, resolve registry tools observedAtMs budgetTokens requested = .ok result) ↔
      (∀ b, registry.Needs requested b → registry.Usable tools observedAtMs b) ∧
      (∀ b, registry.Needs requested b → ¬ Relation.TransGen registry.Depends b b) ∧
      registry.neededTokens requested ≤ budgetTokens.toNat) ∧
    (∀ result, resolve registry tools observedAtMs budgetTokens requested = .ok result →
      registry.Resolves requested result) ∧
    ∀ requested' : List (SkillId V), requested'.length ≤ maxCapabilityRegistryEntries →
      (∀ id, id ∈ requested' ↔ id ∈ requested) →
        resolve registry tools observedAtMs budgetTokens requested' =
          resolve registry tools observedAtMs budgetTokens requested := by
  refine ⟨⟨?_, ?_⟩, fun result resolved => ?_, fun requested' few' same => ?_⟩
  · rintro ⟨result, resolved⟩
    obtain ⟨_, walk, walked, fits, _⟩ := resolve_eq_ok.1 resolved
    obtain ⟨usable, acyclic⟩ := (walks_iff requested).1 ⟨walk, walked⟩
    exact ⟨usable, acyclic, fits⟩
  · rintro ⟨usable, acyclic, fits⟩
    obtain ⟨walk, walked⟩ := (walks_iff requested).2 ⟨usable, acyclic⟩
    exact ⟨_, resolve_eq_ok.2 ⟨few, walk, walked, fits, rfl⟩⟩
  · obtain ⟨_, walk, walked, _, rfl⟩ := resolve_eq_ok.1 resolved
    exact (resolves_of_walk walked).2
  · rw [resolve, resolve, growth_eq_ok.2 few, growth_eq_ok.2 few', rootsOf_congr same]

section Sample

def sampleSkill (name : String) (dependencies : List (SkillDependency Nat)) : RegisteredSkill Nat :=
  ⟨⟨name, 1⟩, .builtIn, ⟨⟨name, 1, 100, dependencies, ["search"]⟩, "instructions", ""⟩, none, none,
    none⟩

def sampleRegistry : SkillRegistry Nat where
  skills := [sampleSkill "report" [⟨"browse", 1⟩], sampleSkill "browse" []]
  contentBytes := 24
  keyed := by decide
  distinct := by decide

def report : SkillId Nat := ⟨"report", 1⟩

/-- However often the report is requested, the visit lists its dependency and it. -/
theorem sample_walk {requested : List (SkillId Nat)} (only : ∀ id, id ∈ requested ↔ id = report) :
    ∃ walk, (visit sampleRegistry (· == "search") 0).visitAll (sampleRegistry.skills.length + 1)
        (rootsOf requested) = .ok walk ∧ walk.ordered = [⟨"browse", 1⟩, report] := by
  have roots : rootsOf requested = [report] := by
    rw [rootsOf_congr (fun id => (only id).trans List.mem_singleton.symm), rootsOf,
      List.mergeSort_singleton]
    rfl
  have walks : ((visit sampleRegistry (· == "search") 0).visitAll 3 [report]).toOption.map
      (·.ordered) = some [⟨"browse", 1⟩, report] := by decide +kernel
  obtain ⟨walk, walked, ordered⟩ := Option.map_eq_some_iff.1 walks
  refine ⟨walk, ?_, ordered⟩
  rw [roots]
  cases answer : (visit sampleRegistry (· == "search") 0).visitAll 3 [report] with
  | error error =>
    rw [answer] at walked
    cases walked
  | ok other =>
    rw [answer] at walked
    cases walked
    exact answer

theorem resolve_exact_sample :
    resolve sampleRegistry (· == "search") 0 200 [report, report] =
        resolve sampleRegistry (· == "search") 0 200 [report] ∧
      ∃ result, resolve sampleRegistry (· == "search") 0 200 [report] = .ok result ∧
        sampleRegistry.Resolves [report] result := by
  obtain ⟨succeeds, resolves, congr⟩ := resolve_exact sampleRegistry (· == "search") 0 200 [report]
    (by decide)
  obtain ⟨walk, walked, ordered⟩ := sample_walk (fun id => List.mem_singleton (b := report))
  obtain ⟨usable, acyclic⟩ := (walks_iff _).1 ⟨walk, walked⟩
  obtain ⟨result, resolved⟩ := succeeds.2 ⟨usable, acyclic, by
    rw [← (resolves_of_walk walked).2.total, ordered]
    decide⟩
  exact ⟨congr _ (by decide) (by simp), result, resolved, resolves result resolved⟩

/-- A request that names one Skill 4097 times is refused. -/
theorem long_request_refused : ∃ requested : List (SkillId Nat),
    (∀ b, sampleRegistry.Needs requested b → sampleRegistry.Usable (· == "search") 0 b) ∧
      (∀ b, sampleRegistry.Needs requested b → ¬ Relation.TransGen sampleRegistry.Depends b b) ∧
      sampleRegistry.neededTokens requested ≤ (200 : UInt64).toNat ∧
      ∀ result, resolve sampleRegistry (· == "search") 0 200 requested ≠ .ok result := by
  obtain ⟨walk, walked, ordered⟩ := @sample_walk (List.replicate 4097 report) fun id => by
    rw [List.mem_replicate]
    exact and_iff_right (by decide)
  obtain ⟨usable, acyclic⟩ := (walks_iff _).1 ⟨walk, walked⟩
  refine ⟨List.replicate 4097 report, usable, acyclic, ?_, fun result resolved => ?_⟩
  · rw [← (resolves_of_walk walked).2.total, ordered]
    decide
  · have few := (resolve_eq_ok.1 resolved).1
    rw [List.length_replicate] at few
    exact absurd few (by decide)

end Sample

end YHarness.Skill

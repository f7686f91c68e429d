/-
# YHarness.DomainPack.Guarantees -- what a Domain Pack store promises

The facts about runs, assembled: `Governed` is what any tenants and actors may rely on
in any run of calls, and `governance` adds that the SQLite store answers every run as
the in-memory store does and holds the same records.
-/
import YHarness.DomainPack.Agreement

namespace YHarness.DomainPack

open YHarness.Lib YHarness.Kernel YHarness.Workflow

set_option autoImplicit false

section Guarantees

variable {V : Type} [SemVer V] [Sha256]

namespace CatalogState

/-- How far a release is; zero before it is installed. -/
def stageNumber (record : Option (DomainPackRelease V)) : Nat :=
  (record.map (·.stage.number)).getD 0

theorem Sound.revision_release {state : CatalogState V} (sound : state.Sound)
    (key : ReleaseKey V) : (state.revision (.release key)).toNat =
      stageNumber state.releases[key]? := by
  show ((state.releases[key]?.map DomainPackRelease.revision).getD 0).toNat = _
  cases found : state.releases[key]? with
  | none => rfl
  | some record => exact (sound.releases key record found).counted

/-- A call changes the record under a key. -/
def Changed (calls : List (DomainPackCall V)) (c : DomainPackCall V) (key : DomainPackKey V) :
    Prop :=
  ¬ (after calls).SameAt (after (calls ++ [c])) key

/-- Two changes of a release take it to different stages, the later one further. -/
theorem stages_grow {calls later : List (DomainPackCall V)} {c d : DomainPackCall V}
    {key : ReleaseKey V} (again : Changed (calls ++ [c] ++ later) d (.release key)) :
    stageNumber (after (calls ++ [c])).releases[key]? <
      stageNumber (after (calls ++ [c] ++ later ++ [d])).releases[key]? := by
  rw [← (sound_after _).revision_release, ← (sound_after _).revision_release]
  have passed := (later_after (calls ++ [c]) later).revisions (.release key)
  have counted := (change_after again).2.1
  omega

variable {calls : List (DomainPackCall V)}

/-- The binding is of what is active, which was installed, evaluated and approved. -/
def BindsActive (calls : List (DomainPackCall V)) (verified : VerifiedDomainPack V)
    (expected : UInt64) (authority : AuthorityContext) (answer : DomainPackAnswer V) : Prop :=
  answer = .bound ⟨authority.tenantId, verified.snapshot, expected, verified.inventorySha256⟩ ∧
    ∃ activation,
      (after calls).activations[
          (⟨authority.tenantId, verified.snapshot.release.name⟩ : ActivationKey)]? =
        some activation ∧
      activation.revision = expected ∧ activation.active = some verified.snapshot.release ∧
      activation.inventorySha256 = some verified.inventorySha256 ∧
      ∃ record, Backed calls ⟨authority.tenantId, verified.snapshot.release⟩ record ∧
        record.snapshot = verified.snapshot

/-- A call that binds answers with what is active when it is made. -/
theorem bound_after {verified : VerifiedDomainPack V} {expected : UInt64}
    {authority : AuthorityContext} {answer : DomainPackAnswer V}
    (answered : answerAfter calls (.bind verified expected authority) = .ok answer) :
    BindsActive calls verified expected authority answer := by
  unfold answerAfter attempt at answered
  cases called : (after calls).call (.bind verified expected authority) with
  | error e =>
    rw [called] at answered
    cases answered
  | ok result =>
    rw [called] at answered
    cases answered
    obtain ⟨binding, bound, called⟩ := bind_eq_ok.1 called
    cases called
    obtain ⟨⟨record, held, same⟩, activation, found, revision, active, inventory, rfl⟩ :=
      found_of_bind bound
    refine ⟨rfl, activation, found, revision, active, inventory, record, ?_, same⟩
    obtain ⟨backing, backed⟩ :=
      backed_after found (DomainPackActivation.mem_members.2 (.inl active))
    obtain rfl : backing = record := Option.some.inj (backed.held.symm.trans held)
    exact backed

/-- A call that fails changes nothing. -/
theorem failed_after {c : DomainPackCall V} {e : DomainPackError}
    (answered : answerAfter calls c = .error e) :
    after (calls ++ [c]) = after calls := by
  have outcome := outcome_after calls c
  rw [answered] at outcome
  generalize after (calls ++ [c]) = next at outcome
  cases outcome
  rfl

end CatalogState

variable (V) in
open CatalogState in
/-- **Governance.**  In every run of calls by any actors of any tenants:
what is active, or was and may be rolled back to, was first installed with the snapshot
it has, passed an evaluation of a suite that the snapshot pins and was approved by
another actor;
a release moves from Installed to Evaluated to Approved, and each time further;
a record changes only by one revision, in a call about it, and only one call that asks
for a revision gets to replace it;
a call that binds answers with what is active;
tenants neither change nor see each other's records;
and a call that fails changes nothing. -/
structure Governed : Prop where
  active : ∀ (calls : List (DomainPackCall V)) (key : ActivationKey)
    (activation : DomainPackActivation V), (after calls).activations[key]? = some activation →
    activation.tenantId = key.tenant ∧ activation.name = key.name ∧
      ∀ release, activation.active = some release ∨ release ∈ activation.rollback →
        ∃ record, Backed calls ⟨key.tenant, release⟩ record
  moves : ∀ (calls : List (DomainPackCall V)) (c : DomainPackCall V) (key : ReleaseKey V),
    StageMove (after calls).releases[key]? (after (calls ++ [c])).releases[key]?
  once : ∀ (calls : List (DomainPackCall V)) (c : DomainPackCall V)
    (later : List (DomainPackCall V)) (d : DomainPackCall V) (key : ReleaseKey V),
    Changed calls c (.release key) → Changed (calls ++ [c] ++ later) d (.release key) →
    stageNumber (after (calls ++ [c])).releases[key]? <
      stageNumber (after (calls ++ [c] ++ later ++ [d])).releases[key]?
  kept : ∀ calls later : List (DomainPackCall V), (after calls).Later (after (calls ++ later))
  counted : ∀ (calls : List (DomainPackCall V)) (c : DomainPackCall V) (key : DomainPackKey V),
    Changed calls c key → c.about = some key ∧
      ((after (calls ++ [c])).revision key).toNat = ((after calls).revision key).toNat + 1 ∧
      ∀ expected, c.expects = some expected → (after calls).revision key = expected
  winner : ∀ (calls : List (DomainPackCall V)) (c : DomainPackCall V)
    (later : List (DomainPackCall V)) (d : DomainPackCall V) (key : DomainPackKey V)
    (expected : UInt64), Changed calls c key → c.expects = some expected →
    d.about = some key → d.expects = some expected →
    ∃ e, answerAfter (calls ++ [c] ++ later) d = .error e
  bound : ∀ (calls : List (DomainPackCall V)) (verified : VerifiedDomainPack V)
    (expected : UInt64) (authority : AuthorityContext) (answer : DomainPackAnswer V),
    answerAfter calls (.bind verified expected authority) = .ok answer →
    BindsActive calls verified expected authority answer
  others : ∀ (calls : List (DomainPackCall V)) (c : DomainPackCall V) (key : DomainPackKey V),
    key.tenant ≠ c.tenant → (after calls).SameAt (after (calls ++ [c])) key
  unseen : ∀ (tenant : Option String) (calls calls' : List (DomainPackCall V)),
    calls.filter (fun c => c.tenant == tenant) = calls'.filter (fun c => c.tenant == tenant) →
    replies (attempt call) (fun c => c.tenant == tenant) empty calls =
      replies (attempt call) (fun c => c.tenant == tenant) empty calls'
  failed : ∀ (calls : List (DomainPackCall V)) (c : DomainPackCall V) (e : DomainPackError),
    answerAfter calls c = .error e → after (calls ++ [c]) = after calls

open CatalogState in
theorem governed : Governed V where
  active calls key activation found := by
    have known := (sound_after calls).activations key activation found
    exact ⟨known.tenantId, known.name, fun release named =>
      backed_after found (DomainPackActivation.mem_members.2 named)⟩
  moves calls c key := by
    have outcome := outcome_after calls c
    generalize answerAfter calls c = answer at outcome
    generalize after (calls ++ [c]) = next at outcome
    cases outcome with
    | failed => exact .stays
    | done does => exact does.move key
  once _ _ _ _ _ _ again := stages_grow again
  kept := later_after
  counted _ _ _ changed := change_after changed
  winner _ _ _ _ _ _ changed expects about' expects' := loses changed expects about' expects'
  bound _ _ _ _ _ answered := bound_after answered
  others calls c _ other := (outcome_after calls c).others other
  unseen tenant _ _ same := noninterference tenant same
  failed _ _ _ answered := failed_after answered

/-! ## Both stores -/

/-- The tables after calls. -/
def SqliteDomainPackStore.after (calls : List (DomainPackCall V)) : SqliteDomainPackStore V :=
  (attempts call .empty calls).2

omit [Sha256] in
theorem Mirrors.empty : Mirrors (CatalogState.empty : CatalogState V) .empty where
  releases key _ := by
    rw [show (CatalogState.empty : CatalogState V).releases[key]? = none from OrdMap.get?_empty _]
    exact OrdMap.get?_empty _
  releaseRows rowKey row found := by
    rw [show (SqliteDomainPackStore.empty : SqliteDomainPackStore V).releases[rowKey]? = none from
      OrdMap.get?_empty _] at found
    cases found
  activations key _ := by
    rw [show (CatalogState.empty : CatalogState V).activations[key]? = none from
      OrdMap.get?_empty _]
    exact OrdMap.get?_empty _

/-- Both stores answer every run alike. -/
theorem stores_alike (faithful : Function.Injective (SemVer.display (V := V)))
    (calls : List (DomainPackCall V)) :
    (attempts CatalogState.call .empty calls).1 =
        (attempts SqliteDomainPackStore.call .empty calls).1 ∧
      Mirrors (CatalogState.after calls) (SqliteDomainPackStore.after calls) := by
  have alike : ∀ (state : CatalogState V) (store : SqliteDomainPackStore V) c,
      state.Sound ∧ Mirrors state store →
        Alike (fun left right => left.1 = right.1 ∧ left.2.Sound ∧ Mirrors left.2 right.2)
          (state.call c) (store.call c) := by
    rintro state store c ⟨sound, mirrors⟩
    refine ((call_alike faithful sound mirrors c).knowing fun result called =>
      (CatalogState.call_does sound called).sound sound).mono ?_
    rintro left right ⟨⟨answer, held⟩, after⟩
    exact ⟨answer, after, held⟩
  obtain ⟨answers, _, mirrors⟩ := attempts_alike
    (fun state store => state.Sound ∧ Mirrors state store) alike ⟨.empty, .empty⟩ calls
  exact ⟨answers, mirrors⟩

/-- **Domain Pack governance**, in memory and on SQLite, whatever calls are made. -/
theorem governance (faithful : Function.Injective (SemVer.display (V := V))) :
    Governed V ∧ ∀ calls : List (DomainPackCall V),
      (attempts CatalogState.call .empty calls).1 =
          (attempts SqliteDomainPackStore.call .empty calls).1 ∧
        Mirrors (CatalogState.after calls) (SqliteDomainPackStore.after calls) :=
  ⟨governed, stores_alike faithful⟩

end Guarantees

/-! ## A release taken through its stages -/

section Sample

attribute [local instance] constantSha256

/-- A version that is its text. -/
structure VersionText where
  text : String
deriving DecidableEq

theorem VersionText.text_injective : Function.Injective VersionText.text := by
  rintro ⟨left⟩ ⟨right⟩ rfl
  rfl

instance : SemVer VersionText where
  toLinearOrder := LinearOrder.lift' VersionText.text VersionText.text_injective
  display := VersionText.text

def sampleDigest (letter : Char) : String :=
  String.ofList (List.replicate 64 letter)

def sampleSnapshot : DomainPackSnapshot VersionText :=
  ⟨1, ⟨"support", ⟨"1.0.0"⟩⟩, "Support desk",
    [⟨.evaluation, "suite", "1.0.0", sampleDigest 'e'⟩], Sha256.digest (.json .null)⟩

def sampleInventory : DomainPackInventory :=
  ⟨sampleSnapshot.components, Sha256.digest (.json .null)⟩

def sampleVerified : VerifiedDomainPack VersionText :=
  ⟨sampleSnapshot, sampleInventory.contentSha256, sampleInventory, by decide +kernel, rfl⟩

def sampleAuthority (subject : String) : AuthorityContext :=
  ⟨.authenticated "directory" subject, some "tenant-a"⟩

/-- Installed, evaluated, approved by another actor, activated and bound; the evaluator
may not approve, and a revision is not replaced twice. -/
def sampleCalls : List (DomainPackCall VersionText) :=
  [.install sampleSnapshot (sampleAuthority "author") (.ok 10),
    .evaluate sampleSnapshot.release 1 (sampleDigest 'e') (sampleDigest 'f') true
      (sampleAuthority "evaluator") (.ok 20),
    .approve sampleSnapshot.release 2 (sampleDigest 'a') (sampleAuthority "evaluator") (.ok 30),
    .approve sampleSnapshot.release 2 (sampleDigest 'a') (sampleAuthority "approver") (.ok 40),
    .activate sampleVerified 0 (sampleAuthority "author") (.ok 50),
    .deactivate "support" 0 (sampleAuthority "approver") (.ok 60),
    .bind sampleVerified 1 (sampleAuthority "author")]

/-- Version texts are different for different versions, and the calls go through but the
two that must not. -/
theorem governance_sample :
    (Governed VersionText ∧ ∀ calls : List (DomainPackCall VersionText),
      (attempts CatalogState.call .empty calls).1 =
          (attempts SqliteDomainPackStore.call .empty calls).1 ∧
        Mirrors (CatalogState.after calls) (SqliteDomainPackStore.after calls)) ∧
      (attempts CatalogState.call .empty sampleCalls).1.map
          (fun answer => answer.toOption.isSome) =
        [true, true, false, true, true, false, true] :=
  ⟨governance VersionText.text_injective, by decide +kernel⟩

end Sample

end YHarness.DomainPack

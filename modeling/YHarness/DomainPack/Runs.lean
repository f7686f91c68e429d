/-
# YHarness.DomainPack.Runs -- Domain Pack governance in every run of calls

A run is a list of calls by any actors of any tenants.  What one call may do
(`Does`) gives what holds after all of them: whatever is active was installed,
evaluated and approved (`backed_after`), records only move forward (`Later`), so that
a revision is replaced once (`loses`), and tenants do not see each other
(`noninterference`).
-/
import Mathlib.Logic.Relation
import YHarness.DomainPack.Governance
import YHarness.Lib.Unwinding

namespace YHarness.DomainPack

open YHarness.Lib YHarness.Kernel YHarness.Workflow

set_option autoImplicit false

section Runs

variable {V : Type} [SemVer V] [Sha256]

/-! ## One call -/

section Calls

variable {state next : CatalogState V} {c : DomainPackCall V} {answer : DomainPackAnswer V}

/-- A call succeeds only while the record has the revision that the call asks for. -/
theorem Does.met (does : Does state c answer next) {key : DomainPackKey V} {expected : UInt64}
    (about : c.about = some key) (expects : c.expects = some expected) :
    state.revision key = expected := by
  cases does with
  | keeps met => exact met key expected about expects
  | installs call =>
    rw [call] at expects
    cases expects
  | advances about' expects' found advances =>
    rw [about'] at about
    rw [expects'] at expects
    cases about
    cases expects
    rw [CatalogState.revision, found]
    exact advances.expected
  | replaces about' expects' _ replaces =>
    rw [about'] at about
    rw [expects'] at expects
    cases about
    cases expects
    exact replaces.expected

/-- A call changes at most the record that it is about, by one revision. -/
theorem Does.changes (does : Does state c answer next) (key : DomainPackKey V) :
    state.SameAt next key ∨
      c.about = some key ∧ (next.revision key).toNat = (state.revision key).toNat + 1 := by
  cases does with
  | keeps => cases key <;> exact .inl rfl
  | @installs written record _ _ about free _ _ _ _ first =>
    cases key with
    | activation key => exact .inl rfl
    | release key =>
      by_cases same : key = written
      · subst same
        refine .inr ⟨about, ?_⟩
        simp only [CatalogState.revision, OrdMap.get?_insert_self, free, Option.map_some,
          Option.map_none, Option.getD_some, Option.getD_none, first]
        rfl
      · exact .inl (OrdMap.get?_insert_of_ne _ _ (Ne.symm same)).symm
  | @advances written before record _ about _ found advances =>
    cases key with
    | activation key => exact .inl rfl
    | release key =>
      by_cases same : key = written
      · subst same
        refine .inr ⟨about, ?_⟩
        simp only [CatalogState.revision, OrdMap.get?_insert_self, found, Option.map_some,
          Option.getD_some]
        exact advances.counted
      · exact .inl (OrdMap.get?_insert_of_ne _ _ (Ne.symm same)).symm
  | @replaces written activation expected _ about _ _ replaces =>
    cases key with
    | release key => exact .inl rfl
    | activation key =>
      by_cases same : key = written
      · subst same
        refine .inr ⟨about, ?_⟩
        simp only [CatalogState.revision, OrdMap.get?_insert_self, replaces.expected]
        exact replaces.counted
      · exact .inl (OrdMap.get?_insert_of_ne _ _ (Ne.symm same)).symm

/-- A call does not touch the records of other tenants. -/
theorem Does.others (does : Does state c answer next) {key : DomainPackKey V}
    (other : key.tenant ≠ c.tenant) : state.SameAt next key := by
  rcases does.changes key with same | ⟨about, _⟩
  · exact same
  · exact absurd (DomainPackCall.tenant_of_about about) other

/-- What happens to the stage of a release. -/
inductive StageMove : Option (DomainPackRelease V) → Option (DomainPackRelease V) → Prop
  | stays {record : Option (DomainPackRelease V)} : StageMove record record
  | installed {record : DomainPackRelease V} (stage : record.stage = .installed) :
      StageMove none (some record)
  | promoted {before record : DomainPackRelease V} (snapshot : record.snapshot = before.snapshot)
      (promotes : Promotes before.snapshot before.stage record.stage) :
      StageMove (some before) (some record)

theorem Does.move (does : Does state c answer next) (key : ReleaseKey V) :
    StageMove state.releases[key]? next.releases[key]? := by
  cases does with
  | keeps => exact .stays
  | replaces => exact .stays
  | @installs written record _ _ _ free _ _ _ stage =>
    dsimp only
    by_cases same : written = key
    · subst same
      rw [OrdMap.get?_insert_self, free]
      exact .installed stage
    · rw [OrdMap.get?_insert_of_ne _ _ same]
      exact .stays
  | @advances written before record _ _ _ found advances promotes =>
    dsimp only
    by_cases same : written = key
    · subst same
      rw [OrdMap.get?_insert_self, found]
      exact .promoted advances.snapshot promotes
    · rw [OrdMap.get?_insert_of_ne _ _ same]
      exact .stays

end Calls

namespace CatalogState

/-- What becomes of a call: one that fails leaves no trace. -/
inductive Outcome (state : CatalogState V) (c : DomainPackCall V) :
    Except DomainPackError (DomainPackAnswer V) → CatalogState V → Prop
  | failed (e : DomainPackError) : Outcome state c (.error e) state
  | done {answer : DomainPackAnswer V} {next : CatalogState V} (does : Does state c answer next) :
      Outcome state c (.ok answer) next

theorem Sound.outcome {state : CatalogState V} (sound : state.Sound) (c : DomainPackCall V) :
    Outcome state c (attempt call state c).1 (attempt call state c).2 := by
  unfold attempt
  cases called : state.call c with
  | error e => exact .failed e
  | ok result => exact .done (call_does sound called)

/-- Records only move forward. -/
structure Later (state next : CatalogState V) : Prop where
  revisions : ∀ key, (state.revision key).toNat ≤ (next.revision key).toNat
  releases : ∀ (key : ReleaseKey V) record, state.releases[key]? = some record →
    ∃ later, next.releases[key]? = some later ∧ later.snapshot = record.snapshot ∧
      Relation.ReflTransGen (Promotes record.snapshot) record.stage later.stage

omit [Sha256] in
theorem Later.refl (state : CatalogState V) : state.Later state where
  revisions _ := Nat.le_refl _
  releases _ record found := ⟨record, found, rfl, .refl⟩

omit [Sha256] in
theorem Later.trans {state middle next : CatalogState V} (first : state.Later middle)
    (rest : middle.Later next) : state.Later next where
  revisions key := (first.revisions key).trans (rest.revisions key)
  releases key record found := by
    obtain ⟨between, held, same, stage⟩ := first.releases key record found
    obtain ⟨later, heldLater, sameLater, stageLater⟩ := rest.releases key between held
    rw [same] at stageLater
    exact ⟨later, heldLater, sameLater.trans same, stage.trans stageLater⟩

variable {state next : CatalogState V} {tenant : Option String}
  {answer : Except DomainPackError (DomainPackAnswer V)} {calls : List (DomainPackCall V)}
  {c : DomainPackCall V} {key : DomainPackKey V}

theorem Outcome.later (outcome : Outcome state c answer next) :
    state.Later next := by
  cases outcome with
  | failed => exact .refl state
  | done does =>
    constructor
    · intro key
      rcases does.changes key with same | ⟨_, counted⟩
      · rw [same.revision]
      · omega
    · intro key record found
      have move := does.move key
      rw [found] at move
      generalize next.releases[key]? = after at move
      cases move with
      | stays => exact ⟨record, rfl, rfl, .refl⟩
      | promoted snapshot promotes => exact ⟨_, rfl, snapshot, .single promotes⟩

theorem Outcome.sound (outcome : Outcome state c answer next) (sound : state.Sound) :
    next.Sound := by
  cases outcome with
  | failed => exact sound
  | done does => exact does.sound sound

/-- A call does not touch the records of other tenants. -/
theorem Outcome.others (outcome : Outcome state c answer next) (other : key.tenant ≠ c.tenant) :
    state.SameAt next key := by
  cases outcome with
  | failed => cases key <;> rfl
  | done does => exact does.others other

/-! ## Runs -/

/-- The catalog after calls. -/
def after (calls : List (DomainPackCall V)) : CatalogState V :=
  (attempts call .empty calls).2

/-- The answer to a call after others. -/
def answerAfter (calls : List (DomainPackCall V)) (c : DomainPackCall V) :
    Except DomainPackError (DomainPackAnswer V) :=
  (attempt call (after calls) c).1

theorem after_concat (calls : List (DomainPackCall V)) (c : DomainPackCall V) :
    after (calls ++ [c]) = (attempt call (after calls) c).2 :=
  attempts_concat ..

theorem sound_after (calls : List (DomainPackCall V)) : (after calls).Sound := by
  induction calls using List.reverseRecOn with
  | nil => exact .empty
  | append_singleton calls c ih =>
    rw [after_concat]
    exact (ih.outcome c).sound ih

theorem outcome_after (calls : List (DomainPackCall V)) (c : DomainPackCall V) :
    Outcome (after calls) c (answerAfter calls c) (after (calls ++ [c])) := by
  rw [after_concat]
  exact (sound_after calls).outcome c

theorem later_after (calls later : List (DomainPackCall V)) :
    (after calls).Later (after (calls ++ later)) := by
  induction later using List.reverseRecOn with
  | nil =>
    rw [List.append_nil]
    exact .refl _
  | append_singleton later c ih =>
    rw [← List.append_assoc]
    exact ih.trans (outcome_after _ c).later

/-- **Every change is one revision**, asked for by the call that makes it. -/
theorem change_after (changed : ¬ (after calls).SameAt (after (calls ++ [c])) key) :
    c.about = some key ∧
      ((after (calls ++ [c])).revision key).toNat = ((after calls).revision key).toNat + 1 ∧
      ∀ expected, c.expects = some expected → (after calls).revision key = expected := by
  have outcome := outcome_after calls c
  generalize after (calls ++ [c]) = next at outcome changed
  generalize answerAfter calls c = answer at outcome
  cases outcome with
  | failed => exact absurd (by cases key <;> rfl) changed
  | done does =>
    obtain ⟨about, counted⟩ := (does.changes key).resolve_left changed
    exact ⟨about, counted, fun expected expects => does.met about expects⟩

/-- **One winner for each expected revision**: whoever asks for it later fails. -/
theorem loses {calls later : List (DomainPackCall V)} {c d : DomainPackCall V} {expected : UInt64}
    (changed : ¬ (after calls).SameAt (after (calls ++ [c])) key)
    (expects : c.expects = some expected) (about' : d.about = some key)
    (expects' : d.expects = some expected) :
    ∃ e, answerAfter (calls ++ [c] ++ later) d = .error e := by
  obtain ⟨_, counted, met⟩ := change_after changed
  have passed := (later_after (calls ++ [c]) later).revisions key
  rw [counted, met expected expects] at passed
  have outcome := outcome_after (calls ++ [c] ++ later) d
  generalize answerAfter (calls ++ [c] ++ later) d = answer at outcome
  generalize after (calls ++ [c] ++ later ++ [d]) = next at outcome
  cases outcome with
  | failed e => exact ⟨e, rfl⟩
  | done does =>
    rw [does.met about' expects'] at passed
    omega

/-! ## What is active -/

/-- The call of a run that first put something under a key. -/
def FirstInstalled (calls : List (DomainPackCall V)) (key : ReleaseKey V)
    (snapshot : DomainPackSnapshot V) : Prop :=
  ∃ before authority now later, calls = before ++ .install snapshot authority now :: later ∧
    (⟨authority.tenantId, snapshot.release⟩ : ReleaseKey V) = key ∧
    (after before).releases[key]? = none ∧
    ((after (before ++ [.install snapshot authority now])).releases[key]?).map (·.snapshot) =
      some snapshot

theorem FirstInstalled.concat {key : ReleaseKey V} {snapshot : DomainPackSnapshot V}
    (first : FirstInstalled calls key snapshot) (c : DomainPackCall V) :
    FirstInstalled (calls ++ [c]) key snapshot := by
  obtain ⟨before, authority, now, later, rfl, rest⟩ := first
  exact ⟨before, authority, now, later ++ [c], by simp, rest⟩

/-- A release has the snapshot with which it was first installed. -/
theorem firstInstalled_after {key : ReleaseKey V} {record : DomainPackRelease V}
    (found : (after calls).releases[key]? = some record) :
    FirstInstalled calls key record.snapshot := by
  induction calls using List.reverseRecOn generalizing record with
  | nil =>
    rw [show (after [] : CatalogState V).releases[key]? = none from OrdMap.get?_empty key] at found
    cases found
  | append_singleton calls c ih =>
    have outcome := outcome_after calls c
    have added : ∀ {snapshot authority now}, c = .install snapshot authority now →
        (⟨authority.tenantId, snapshot.release⟩ : ReleaseKey V) = key →
        (after calls).releases[key]? = none → record.snapshot = snapshot →
        FirstInstalled (calls ++ [c]) key record.snapshot := by
      rintro snapshot authority now rfl about free rfl
      exact ⟨calls, authority, now, [], rfl, about, free, by rw [found]; rfl⟩
    generalize answerAfter calls c = answer at outcome
    generalize after (calls ++ [c]) = next at outcome found
    cases outcome with
    | failed => exact (ih found).concat c
    | done does =>
      cases does with
      | keeps => exact (ih found).concat c
      | replaces => exact (ih found).concat c
      | @installs written fresh now call about free =>
        by_cases same : written = key
        · subst same
          rw [OrdMap.get?_insert_self] at found
          cases found
          rw [call] at about
          cases about
          exact added call rfl free rfl
        · rw [OrdMap.get?_insert_of_ne _ _ same] at found
          exact (ih found).concat c
      | @advances written before fresh _ _ _ current advances =>
        by_cases same : written = key
        · subst same
          rw [OrdMap.get?_insert_self] at found
          cases found
          rw [advances.snapshot]
          exact (ih current).concat c
        · rw [OrdMap.get?_insert_of_ne _ _ same] at found
          exact (ih found).concat c

/-- What stands behind a release that is, or was, active. -/
structure Backed (calls : List (DomainPackCall V)) (key : ReleaseKey V)
    (record : DomainPackRelease V) : Prop where
  held : (after calls).releases[key]? = some record
  tenantId : record.tenantId = key.tenant
  release : record.snapshot.release = key.release
  installed : FirstInstalled calls key record.snapshot
  approved : ∃ evaluation approval, record.stage = .approved evaluation approval ∧
    evaluation.passed = true ∧ pinsSuite record.snapshot evaluation.suiteSha256 = true ∧
    approval.approvedBy ≠ evaluation.evaluatedBy

/-- **Whatever is active was installed, evaluated and approved.** -/
theorem backed_after {key : ActivationKey} {activation : DomainPackActivation V}
    {release : DomainPackReleaseId V} (found : (after calls).activations[key]? = some activation)
    (named : release ∈ activation.members) :
    ∃ record, Backed calls ⟨key.tenant, release⟩ record := by
  have sound := sound_after calls
  obtain ⟨record, held, stage⟩ := (sound.activations key activation found).approved release named
  have known := sound.releases _ record held
  refine ⟨record, held, known.tenantId, known.release, firstInstalled_after held, ?_⟩
  cases staged : record.stage with
  | approved evaluation approval =>
    obtain ⟨passed, independent⟩ := approved_of_valid known.valid staged
    exact ⟨evaluation, approval, rfl, passed, known.pinned evaluation (by rw [staged]; rfl),
      independent⟩
  | _ =>
    rw [staged] at stage
    cases stage

/-! ## Tenants apart -/

/-- Two catalogs hold the same records of a tenant. -/
def SameFor (tenant : Option String) (state next : CatalogState V) : Prop :=
  ∀ key : DomainPackKey V, key.tenant = tenant → state.SameAt next key

omit [Sha256] in
theorem SameFor.release (same : SameFor tenant state next) (release : DomainPackReleaseId V) :
    state.releases[(⟨tenant, release⟩ : ReleaseKey V)]? =
      next.releases[(⟨tenant, release⟩ : ReleaseKey V)]? :=
  same (.release ⟨tenant, release⟩) rfl

omit [Sha256] in
theorem SameFor.activation (same : SameFor tenant state next) (name : String) :
    state.activations[(⟨tenant, name⟩ : ActivationKey)]? =
      next.activations[(⟨tenant, name⟩ : ActivationKey)]? :=
  same (.activation ⟨tenant, name⟩) rfl

omit [Sha256] in
theorem SameFor.insertRelease (same : SameFor tenant state next) (key : ReleaseKey V)
    (record : DomainPackRelease V) :
    SameFor tenant { state with releases := state.releases.insert key record }
      { next with releases := next.releases.insert key record } := by
  rintro (other | other) own
  · show (state.releases.insert key record)[other]? = (next.releases.insert key record)[other]?
    by_cases written : key = other
    · subst written
      rw [OrdMap.get?_insert_self, OrdMap.get?_insert_self]
    · rw [OrdMap.get?_insert_of_ne _ _ written, OrdMap.get?_insert_of_ne _ _ written]
      exact same (.release other) own
  · exact same (.activation other) own

omit [Sha256] in
theorem SameFor.insertActivation (same : SameFor tenant state next) (key : ActivationKey)
    (activation : DomainPackActivation V) :
    SameFor tenant { state with activations := state.activations.insert key activation }
      { next with activations := next.activations.insert key activation } := by
  rintro (other | other) own
  · exact same (.release other) own
  · show (state.activations.insert key activation)[other]? =
      (next.activations.insert key activation)[other]?
    by_cases written : key = other
    · subst written
      rw [OrdMap.get?_insert_self, OrdMap.get?_insert_self]
    · rw [OrdMap.get?_insert_of_ne _ _ written, OrdMap.get?_insert_of_ne _ _ written]
      exact same (.activation other) own

omit [Sha256] in
theorem SameFor.enforceReleaseCount (same : SameFor tenant state next) (name : String) :
    state.enforceReleaseCount tenant name = next.enforceReleaseCount tenant name := by
  have held : ∀ key : ReleaseKey V, ofPack tenant name key = true →
      state.releases[key]? = next.releases[key]? := by
    intro key kept
    rw [ofPack, Bool.and_eq_true, beq_iff_eq] at kept
    exact same (.release key) kept.1
  have count : (state.releases.toList.filter fun entry => ofPack tenant name entry.1).length =
      (next.releases.toList.filter fun entry => ofPack tenant name entry.1).length := by
    refine OrdMap.length_filter_eq id (fun _ _ _ _ => id) (fun key kept => ?_) fun key kept => ?_
    · obtain ⟨⟨record, found⟩, kept⟩ := OrdMap.mem_keysOf.1 kept
      exact OrdMap.mem_keysOf.2 ⟨⟨record, (held key kept).symm.trans found⟩, kept⟩
    · obtain ⟨⟨record, found⟩, kept⟩ := OrdMap.mem_keysOf.1 kept
      exact ⟨key, OrdMap.mem_keysOf.2 ⟨⟨record, (held key kept).trans found⟩, kept⟩, rfl⟩
  rw [CatalogState.enforceReleaseCount, CatalogState.enforceReleaseCount, count]

omit [Sha256] in
theorem SameFor.releaseOf (same : SameFor tenant state next) (release : DomainPackReleaseId V) :
    state.releaseOf tenant release = next.releaseOf tenant release :=
  congrArg (orError _) (same.release release)

omit [Sha256] in
theorem SameFor.activationOf (same : SameFor tenant state next) (name : String) :
    state.activationOf tenant name = next.activationOf tenant name :=
  congrArg (orError _) (same.activation name)

/-- One result, and catalogs that agree on a tenant. -/
def AgreeFor {α : Type} (tenant : Option String) (left right : α × CatalogState V) : Prop :=
  left.1 = right.1 ∧ SameFor tenant left.2 right.2

omit [Sha256] in
/-- Results wrapped as answers. -/
theorem alike_answered {α : Type} {x x' : Except DomainPackError (α × CatalogState V)}
    (wrap : α → DomainPackAnswer V) (alike : Alike (AgreeFor tenant) x x') :
    Alike (AgreeFor tenant) (x >>= fun result => .ok (wrap result.1, result.2))
      (x' >>= fun result => .ok (wrap result.1, result.2)) :=
  alike.bind fun _ _ agree => .ok ⟨congrArg wrap agree.1, agree.2⟩

section Isolated

variable {state state' : CatalogState V} {authority : AuthorityContext}

theorem install_isolated (same : SameFor authority.tenantId state state')
    (snapshot : DomainPackSnapshot V) (now : Clock) :
    Alike (AgreeFor authority.tenantId) (state.install snapshot authority now)
      (state'.install snapshot authority now) := by
  refine .shared _ fun tenant validated => .shared _ fun _ _ => ?_
  obtain ⟨rfl, _⟩ := validatedTenant_eq_ok validated
  dsimp only
  rw [same.release, same.enforceReleaseCount]
  cases state'.releases[(⟨authority.tenantId, snapshot.release⟩ : ReleaseKey V)]? with
  | some existing => exact .shared _ fun _ _ => .ok ⟨rfl, same⟩
  | none =>
    refine .shared _ fun _ _ => .shared _ fun record _ => .ok ⟨rfl, ?_⟩
    exact same.insertRelease _ record

omit [Sha256] in
/-- The two calls that move a release. -/
theorem advance_isolated (same : SameFor authority.tenantId state state')
    (release : DomainPackReleaseId V)
    (advance : DomainPackRelease V → Except DomainPackError (DomainPackRelease V)) :
    Alike (AgreeFor authority.tenantId)
      (do
        let tenant ← validatedTenant authority
        let candidate ← state.releaseOf tenant release
        let record ← advance candidate
        .ok (record, { state with releases := state.releases.insert ⟨tenant, release⟩ record }))
      (do
        let tenant ← validatedTenant authority
        let candidate ← state'.releaseOf tenant release
        let record ← advance candidate
        .ok (record,
          { state' with releases := state'.releases.insert ⟨tenant, release⟩ record })) := by
  refine .shared _ fun tenant validated => ?_
  obtain ⟨rfl, _⟩ := validatedTenant_eq_ok validated
  rw [same.releaseOf]
  refine .shared _ fun _ _ => .shared _ fun record _ => .ok ⟨rfl, ?_⟩
  exact same.insertRelease _ record

theorem bind_isolated (same : SameFor authority.tenantId state state')
    (verified : VerifiedDomainPack V) (expected : UInt64) :
    state.bind verified expected authority = state'.bind verified expected authority := by
  unfold CatalogState.bind
  cases validated : validatedTenant authority with
  | error e => rfl
  | ok tenant =>
    obtain ⟨rfl, _⟩ := validatedTenant_eq_ok validated
    rw [ok_bind, ok_bind, same.releaseOf, same.activationOf]

theorem activate_isolated (same : SameFor authority.tenantId state state')
    (verified : VerifiedDomainPack V) (expected : UInt64) (now : Clock) :
    Alike (AgreeFor authority.tenantId) (state.activate verified expected authority now)
      (state'.activate verified expected authority now) := by
  refine .shared _ fun tenant validated => ?_
  obtain ⟨rfl, _⟩ := validatedTenant_eq_ok validated
  rw [same.releaseOf]
  refine .shared _ fun _ _ => .shared _ fun _ _ => ?_
  dsimp only
  rw [same.activation]
  refine .shared _ fun activation _ => .ok ⟨rfl, ?_⟩
  exact same.insertActivation _ activation

omit [Sha256] in
theorem deactivate_isolated (same : SameFor authority.tenantId state state') (name : String)
    (expected : UInt64) (now : Clock) :
    Alike (AgreeFor authority.tenantId) (state.deactivate name expected authority now)
      (state'.deactivate name expected authority now) := by
  refine .shared _ fun tenant validated => ?_
  obtain ⟨rfl, _⟩ := validatedTenant_eq_ok validated
  rw [same.activationOf]
  refine .shared _ fun _ _ => .shared _ fun activation _ => .ok ⟨rfl, ?_⟩
  exact same.insertActivation _ activation

theorem rollback_isolated (same : SameFor authority.tenantId state state')
    (verified : VerifiedDomainPack V) (expected : UInt64) (now : Clock) :
    Alike (AgreeFor authority.tenantId) (state.rollback verified expected authority now)
      (state'.rollback verified expected authority now) := by
  refine .shared _ fun tenant validated => ?_
  obtain ⟨rfl, _⟩ := validatedTenant_eq_ok validated
  rw [same.releaseOf, same.activationOf]
  refine .shared _ fun _ _ => .shared _ fun _ _ => .shared _ fun _ _ =>
    .shared _ fun activation _ => .ok ⟨rfl, ?_⟩
  exact same.insertActivation _ activation

end Isolated

/-- **The answer to a call is a matter of the records of its tenant.** -/
theorem call_isolated {state state' : CatalogState V} (same : SameFor c.tenant state state') :
    Alike (AgreeFor c.tenant) (state.call c) (state'.call c) := by
  cases c with
  | install snapshot authority now =>
    exact alike_answered .release (install_isolated same snapshot now)
  | get release authority =>
    refine .bind (Q := Eq) ?_ fun found _ agree =>
      .ok ⟨congrArg DomainPackAnswer.foundRelease agree, same⟩
    refine .shared _ fun tenant validated => .shared _ fun _ _ => ?_
    obtain ⟨rfl, _⟩ := validatedTenant_eq_ok validated
    exact .ok (same.release release)
  | evaluate release expected suite report passed authority now =>
    exact alike_answered .release (advance_isolated same release fun record =>
      evaluateRelease record expected suite report passed authority now)
  | approve release expected evidence authority now =>
    exact alike_answered .release (advance_isolated same release fun record =>
      approveRelease record expected evidence authority now)
  | activation name authority =>
    refine .bind (Q := Eq) ?_ fun found _ agree =>
      .ok ⟨congrArg DomainPackAnswer.foundActivation agree, same⟩
    refine .shared _ fun tenant validated => .shared _ fun _ _ => ?_
    obtain ⟨rfl, _⟩ := validatedTenant_eq_ok validated
    exact .ok (same.activation name)
  | bind verified expected authority =>
    have bound : state.bind verified expected authority =
        state'.bind verified expected authority := bind_isolated same verified expected
    show Alike _ (state.bind verified expected authority >>= _) _
    rw [bound]
    exact .shared _ fun _ _ => .ok ⟨rfl, same⟩
  | activate verified expected authority now =>
    exact alike_answered .activation (activate_isolated same verified expected now)
  | deactivate name expected authority now =>
    exact alike_answered .activation (deactivate_isolated same name expected now)
  | rollback verified expected authority now =>
    exact alike_answered .activation (rollback_isolated same verified expected now)

/-- What a tenant sees moves with its own calls only. -/
theorem unwinds (tenant : Option String) :
    Unwinds (attempt (call (V := V))) (attempt call) (fun c => c.tenant == tenant) (fun _ => ())
      (fun _ _ => True) (fun _ state seen => state.Sound ∧ SameFor tenant state seen) where
  own := by
    intro _ state seen c sees _ _ own
    obtain rfl := beq_iff_eq.1 own
    obtain ⟨answer, same⟩ := attempt_alike (SameFor c.tenant) sees.2 (call_isolated sees.2)
    exact ⟨answer, (sees.1.outcome c).sound sees.1, same⟩
  others := by
    intro _ state seen c sees _ other
    refine ⟨(sees.1.outcome c).sound sees.1, fun key own => ?_⟩
    have unchanged : state.SameAt _ key := (sees.1.outcome c).others (by
      rw [own]
      exact (beq_eq_false_iff_ne.1 other).symm)
    have same := sees.2 key own
    cases key with
    | release key => exact (Eq.symm unchanged).trans same
    | activation key => exact (Eq.symm unchanged).trans same

/-- **A tenant learns nothing of the others**: what it is answered is settled by its own
calls. -/
theorem noninterference (tenant : Option String) {calls calls' : List (DomainPackCall V)}
    (same : calls.filter (fun c => c.tenant == tenant) =
      calls'.filter (fun c => c.tenant == tenant)) :
    replies (attempt call) (fun c => c.tenant == tenant) empty calls =
      replies (attempt call) (fun c => c.tenant == tenant) empty calls' := by
  have assume : ∀ (calls : List (DomainPackCall V)) (state : CatalogState V),
      Throughout (attempt call) (fun _ _ => True) state calls := by
    intro calls
    induction calls with
    | nil => exact fun _ => trivial
    | cons c rest ih => exact fun state => ⟨trivial, ih _⟩
  have clocked : ∀ calls : List (DomainPackCall V), Clocked (fun _ => ()) calls :=
    fun calls => List.pairwise_of_forall fun _ _ => le_refl _
  exact (unwinds tenant).noninterference (v := empty)
    (fun _ => ⟨.empty, fun key _ => by cases key <;> rfl⟩) same (clocked calls) (clocked calls')
    (assume calls _) (assume calls' _)

end CatalogState

end Runs

end YHarness.DomainPack

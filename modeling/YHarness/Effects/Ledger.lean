/-
# YHarness.Effects.Ledger -- what a store of Effects is for

A ledger is a function from keys to snapshots.  Its creation looks up the identity,
then the Effect bound to the idempotency coordinate, wherever that is kept; its
command replaces the snapshot of the expected revision.  A ledger is `Sound` when
commands built every Effect it keeps and a coordinate belongs to one of them.

A creation is recognized by the request and the actor that began the history
(`Reachable.createMatches`), as far as SHA-256 tells requests apart
(`Reachable.creation_of_matches`).
-/
import YHarness.Effects.Coordinator

namespace YHarness.Effects

open YHarness.Lib YHarness.Kernel

set_option autoImplicit false

/-! ## Requests told apart -/

theorem EffectCreateRequest.toJson_injective {left right : EffectCreateRequest}
    (same : left.toJson = right.toJson) : left = right := by
  obtain ⟨commandId, ⟨capability, operation⟩, idempotencyKey, input, notBeforeMs⟩ := left
  obtain ⟨commandId', ⟨capability', operation'⟩, idempotencyKey', input', notBeforeMs'⟩ := right
  simp only [EffectCreateRequest.toJson, EffectOperation.toJson, jsonU64, Json.obj.injEq,
    List.cons.injEq, Prod.mk.injEq, Json.str.injEq, Json.nat.injEq, and_true, true_and] at same
  obtain ⟨rfl, ⟨rfl, rfl⟩, rfl, rfl, number⟩ := same
  rw [UInt64.toNat_inj.1 number]

variable {left right : ActorIdentity}

theorem ActorIdentity.toJson_injective (same : left.toJson = right.toJson) : left = right := by
  cases left <;> cases right <;> simp_all [ActorIdentity.toJson]

theorem attributedCommand_injective {tenantId : Option String} {command command' : Json}
    (same : attributedCommand left tenantId command = attributedCommand right tenantId command') :
    left = right ∧ command = command' := by
  simp only [attributedCommand, Json.obj.injEq, List.cons_append, List.cons.injEq, Prod.mk.injEq,
    true_and, List.append_cancel_left_eq, and_true] at same
  exact ⟨ActorIdentity.toJson_injective same.1, same.2⟩

section Ledger

variable [Sha256]

/-! ## Effects that commands build -/

namespace Effect

/-- The request and the actor a history begins with. -/
def creation (e : Effect) : Option (EffectCreateRequest × ActorIdentity) :=
  e.transitions.head?.bind fun t =>
    match t.kind with
    | .created _ operation idempotencyKey input _ notBeforeMs =>
      some (⟨t.commandId, operation, idempotencyKey, input, notBeforeMs⟩, t.actor)
    | _ => none

variable {request : EffectCreateRequest} {authority : AuthorityContext} {e : Effect}
  {appliedAtMs : UInt64}

theorem new_eq_ok (created : Effect.new request appliedAtMs authority = .ok e) :
    validateAuthority authority "Effect creation authority" = .ok () ∧
      (∃ digest, attributedDigest authority.actor authority.tenantId request.toJson = .ok digest) ∧
      e.tenantId = authority.tenantId ∧ e.operation = request.operation ∧
      e.idempotencyKey = request.idempotencyKey ∧ e.createdAtMs = appliedAtMs ∧
      appliedAtMs ≠ 0 ∧ e.transitions.length = 1 ∧ e = e.charged ∧
      e.toJson.encodedLen ≤ maxEffectJsonBytes := by
  replace created := rest_ok created
  obtain ⟨time, created⟩ := seq_eq_ok.1 created
  obtain ⟨authorized, created⟩ := seq_eq_ok.1 created
  obtain ⟨_, _, created⟩ := bind_eq_ok.1 created
  obtain ⟨digest, digested, created⟩ := bind_eq_ok.1 created
  replace created := rest_ok created
  obtain ⟨size, sized, created⟩ := bind_eq_ok.1 created
  cases created
  obtain ⟨fits, rfl⟩ := boundedSerializedSize_eq_ok.1 (mapError_eq_ok.1 sized)
  rw [validateApplicationTime, rejectIf_eq_ok, beq_eq_false_iff_ne] at time
  exact ⟨authorized, ⟨digest, digested⟩, rfl, rfl, rfl, rfl, time, rfl, rfl, fits⟩

theorem new_input (created : Effect.new request appliedAtMs authority = .ok e) :
    e.input = request.input := by
  iterate 3 replace created := rest_ok created
  obtain ⟨_, _, created⟩ := bind_eq_ok.1 created
  obtain ⟨_, _, created⟩ := bind_eq_ok.1 created
  replace created := rest_ok created
  obtain ⟨_, _, created⟩ := bind_eq_ok.1 created
  cases created
  rfl

/-- A command that is not a duplicate appends one transition. -/
theorem apply_eq_ok {e next : Effect} {command : EffectCommand} {outcome : EffectApplyOutcome}
    (accepted : e.apply command appliedAtMs authority = .ok (next, outcome)) :
    (e.recognizesCommand command authority = .ok true ∧ next = e ∧ outcome = .duplicate) ∨
      (e.recognizesCommand command authority = .ok false ∧ outcome = .applied ∧
        ∃ t status, next = (e.extend t status).charged ∧
          next.toJson.encodedLen ≤ maxEffectJsonBytes) := by
  obtain ⟨recognized, recognizes, accepted⟩ := bind_eq_ok.1 accepted
  cases recognized with
  | true =>
    cases accepted
    exact .inl ⟨recognizes, rfl, rfl⟩
  | false =>
    iterate 4 replace accepted := rest_ok accepted
    obtain ⟨_, _, accepted⟩ := bind_eq_ok.1 accepted
    obtain ⟨⟨status, kind⟩, _, accepted⟩ := bind_eq_ok.1 accepted
    obtain ⟨_, _, accepted⟩ := bind_eq_ok.1 accepted
    replace accepted := rest_ok accepted
    obtain ⟨size, sized, accepted⟩ := bind_eq_ok.1 accepted
    cases accepted
    obtain ⟨fits, rfl⟩ := boundedSerializedSize_eq_ok.1 (mapError_eq_ok.1 sized)
    exact .inr ⟨recognizes, rfl, _, status, rfl, fits⟩

/-- The charge is the size of the encoding, and that is bounded. -/
theorem Reachable.sized (reached : Reachable e) :
    e = e.charged ∧ e.toJson.encodedLen ≤ maxEffectJsonBytes := by
  induction reached with
  | new created =>
    obtain ⟨_, _, _, _, _, _, _, _, charged, fits⟩ := new_eq_ok created
    exact ⟨charged, fits⟩
  | apply _ accepted ih =>
    rcases apply_eq_ok accepted with ⟨_, rfl, _⟩ | ⟨_, _, t, status, rfl, fits⟩
    · exact ih
    · exact ⟨rfl, fits⟩

theorem Reachable.count (reached : Reachable e) :
    0 < e.transitions.length ∧ e.transitions.length ≤ maxEffectTransitions := by
  obtain ⟨count, replays⟩ := validate_eq_ok.1 reached.valid
  exact ⟨List.length_pos_of_ne_nil replays.ne_nil, count⟩

/-- A history holds the input in its creation only. -/
theorem Replays.reread {tenantId : Option String} {ts : List EffectTransition}
    {p : EffectProjection} (replays : Replays tenantId ts p) (exact : ReadExactly p.input) :
    ts.map EffectTransition.reread = ts := by
  induction replays with
  | @created t p recorded creation =>
    obtain ⟨notBeforeMs, kind, _⟩ := creation.kind
    rw [List.map_singleton, EffectTransition.reread, kind, List.singleton_inj]
    dsimp only
    rw [show readNumbers p.input = p.input from exact, ← kind]
  | @moved past p p' t replays recorded moves ih =>
    obtain ⟨status, moves, rfl⟩ := moves
    have kept : t.reread = t := by
      obtain ⟨sequence, commandId, commandSha256, now, actor, kind⟩ := t
      generalize p.status = before at moves
      cases moves <;> rfl
    rw [List.map_append, ih exact, List.map_singleton, kept]

/-- The text of an Effect whose input is read exactly is read back as that Effect. -/
theorem Reachable.deserialize (reached : Reachable e) (exact : ReadExactly e.input) :
    e.toWire.reread.deserialize = .ok e := by
  have same : e.toWire.reread = e.toWire := by
    rw [EffectWire.reread, show readNumbers e.toWire.input = e.toWire.input from exact,
      show e.toWire.transitions.map EffectTransition.reread = e.toWire.transitions from
        Replays.reread reached.replays exact]
  rw [same]
  obtain ⟨charged, fits⟩ := reached.sized
  obtain ⟨count, replays⟩ := validate_eq_ok.1 reached.valid
  have valid : e.toWire.uncharged.validate = .ok () := validate_eq_ok.2 ⟨count, replays⟩
  have sized : e.toWire.uncharged.encodedSize = .ok e.toJson.encodedLen :=
    mapError_eq_ok.2 (boundedSerializedSize_eq_ok.2 ⟨fits, rfl⟩)
  refine mapError_eq_ok.2 (seq_eq_ok.2 ⟨valid, bind_eq_ok.2 ⟨_, sized, ?_⟩⟩)
  conv_rhs => rw [charged]
  rfl

/-- The request that created an Effect is recognized. -/
theorem Reachable.createMatches (reached : Reachable e)
    (authorized : validateAuthority authority "Effect creation replay authority" = .ok ())
    (owner : e.tenantId = authority.tenantId)
    (created : e.creation = some (request, authority.actor)) :
    e.createMatches request authority = .ok true := by
  obtain ⟨t, rest, status, parts, recorded, creation⟩ := reached.replays.creation
  obtain ⟨notBeforeMs, kind, _⟩ := creation.kind
  obtain ⟨sequence, commandId, commandSha256, now, actor, shape⟩ := t
  obtain rfl : shape = _ := kind
  have digest := (seq_eq_ok.1 recorded.digest).2
  rw [Effect.creation, parts] at created
  cases created
  rw [owner] at digest
  have mine : (e.tenantId != authority.tenantId) = false := by
    rw [bne_eq_false_iff_eq]
    exact owner
  refine seq_eq_ok.2 ⟨authorized, ?_⟩
  rw [mine, if_neg (by decide)]
  refine bind_eq_ok.2 ⟨_, digest, ?_⟩
  rw [parts]
  simp

/-- The request of an Effect could have created it at any time. -/
theorem Reachable.recreate (reached : Reachable e) {actor : ActorIdentity}
    (created : e.creation = some (request, actor)) (positive : appliedAtMs ≠ 0) :
    ∃ again, Effect.new request appliedAtMs ⟨actor, e.tenantId⟩ = .ok again ∧
      request.operation = e.operation ∧ request.idempotencyKey = e.idempotencyKey := by
  obtain ⟨t, rest, status, parts, recorded, creation⟩ := reached.replays.creation
  obtain ⟨notBeforeMs, kind, pending, time⟩ := creation.kind
  obtain ⟨sequence, commandId, commandSha256, now, creator, shape⟩ := t
  obtain rfl : shape = _ := kind
  rw [Effect.creation, parts] at created
  cases created
  have digest := (seq_eq_ok.1 recorded.digest).2
  have timely : validateApplicationTime appliedAtMs = .ok () := by
    rw [validateApplicationTime, rejectIf_eq_ok, beq_eq_false_iff_ne]
    exact positive
  -- the creation as a later application would record it
  have recorded' : Recorded e.tenantId [] ⟨sequence, commandId, commandSha256, appliedAtMs, creator,
      .created e.tenantId e.operation e.idempotencyKey e.input e.inputSha256 notBeforeMs⟩ :=
    { recorded with time := timely, ordered := UInt64.zero_le, digest := recorded.digest }
  have rebuilt := rebuild_created (p := ⟨e.tenantId, e.operation, e.idempotencyKey, e.input,
    e.inputSha256, appliedAtMs, .pending 1 notBeforeMs⟩) recorded'
    { creation with kind := ⟨notBeforeMs, rfl, rfl, time⟩, createdAt := rfl }
  obtain ⟨again, accepted, _⟩ := bind_eq_ok.1 rebuilt
  exact ⟨again, accepted, rfl, rfl⟩

/-- SHA-256 tells a request apart from the one that created an Effect. -/
def TellsApart (e : Effect) (request : EffectCreateRequest) (actor : ActorIdentity) : Prop :=
  ∀ original creator, e.creation = some (original, creator) →
    Sha256.digest (.json (attributedCommand creator e.tenantId original.toJson)) =
      Sha256.digest (.json (attributedCommand actor e.tenantId request.toJson)) →
    attributedCommand creator e.tenantId original.toJson =
      attributedCommand actor e.tenantId request.toJson

/-- Only the request that created an Effect is recognized. -/
theorem Reachable.creation_of_matches (reached : Reachable e)
    (apart : e.TellsApart request authority.actor)
    (recognized : e.createMatches request authority = .ok true) :
    e.tenantId = authority.tenantId ∧ e.creation = some (request, authority.actor) := by
  obtain ⟨t, rest, status, parts, recorded, creation⟩ := reached.replays.creation
  obtain ⟨notBeforeMs, kind, _⟩ := creation.kind
  obtain ⟨sequence, commandId, commandSha256, now, actor, shape⟩ := t
  obtain rfl : shape = _ := kind
  have digest := (seq_eq_ok.1 recorded.digest).2
  have begins : e.creation = some (⟨commandId, e.operation, e.idempotencyKey, e.input,
      notBeforeMs⟩, actor) := by
    rw [Effect.creation, parts]
    rfl
  replace recognized := rest_ok recognized
  split at recognized
  · cases recognized
  · rename_i owner
    rw [bne_iff_ne, not_not] at owner
    obtain ⟨digest', digested, recognized⟩ := bind_eq_ok.1 recognized
    rw [parts, ok_eq_ok, List.head?_cons, Option.any_some, Eq.comm, Bool.and_eq_true, beq_iff_eq,
      beq_iff_eq] at recognized
    obtain ⟨_, _, _, recordedDigest⟩ := attributedDigest_eq_ok.1 digest
    obtain ⟨_, _, _, askedDigest⟩ := attributedDigest_eq_ok.1 digested
    rw [← owner] at askedDigest
    have same := apart _ _ begins (recordedDigest.symm.trans (recognized.2.trans askedDigest))
    obtain ⟨rfl, requests⟩ := attributedCommand_injective same
    exact ⟨owner, by rw [begins, EffectCreateRequest.toJson_injective requests]⟩

end Effect

/-! ## Ledgers -/

/-- A snapshot that commands built, kept under its key. -/
structure EffectSnapshot.Sound (snapshot : EffectSnapshot) (key : StoreKey) : Prop where
  key : snapshot.key = key
  identity : validateIdentity "Effect" snapshot.id = .ok ()
  tenant : Kernel.validateTenant snapshot.tenantId = .ok ()
  owner : snapshot.effect.tenantId = snapshot.tenantId
  reached : snapshot.effect.Reachable
  revision : snapshot.revision.toNat = snapshot.effect.transitions.length

/-- The snapshots that are kept. -/
abbrev EffectLedger := StoreKey → Option EffectSnapshot

namespace EffectLedger

/-- Every snapshot was built by commands, and an idempotency coordinate belongs to one. -/
structure Sound (held : EffectLedger) : Prop where
  sound : ∀ key snapshot, held key = some snapshot → snapshot.Sound key
  unique : ∀ leftKey rightKey left right, held leftKey = some left → held rightKey = some right →
    left.coordinate = right.coordinate → leftKey = rightKey

theorem empty_sound : Sound fun _ => none where
  sound := by
    intro _ _ kept
    cases kept
  unique := by
    intro _ _ _ _ kept
    cases kept

open Classical in
/-- The Effect that is bound to an idempotency coordinate. -/
noncomputable def boundTo (held : EffectLedger) (coordinate : IdempotencyCoordinate) :
    Option EffectSnapshot :=
  if bound : ∃ snapshot, held snapshot.key = some snapshot ∧ snapshot.coordinate = coordinate then
    some bound.choose
  else none

variable {held : EffectLedger}

variable {snapshot : EffectSnapshot} {request : EffectCreateRequest}
  {coordinate : IdempotencyCoordinate} {canonical : EffectSnapshot}

theorem Sound.boundTo_eq_some (sound : held.Sound) :
    held.boundTo coordinate = some snapshot ↔
      held snapshot.key = some snapshot ∧ snapshot.coordinate = coordinate := by
  by_cases bound : ∃ snapshot, held snapshot.key = some snapshot ∧ snapshot.coordinate = coordinate
  · obtain ⟨chosen, same⟩ := bound.choose_spec
    rw [boundTo, dif_pos bound, Option.some_inj]
    constructor
    · intro found
      rw [← found]
      exact ⟨chosen, same⟩
    · intro kept
      have key := sound.unique _ _ _ _ chosen kept.1 (same.trans kept.2.symm)
      rw [key, kept.1, Option.some_inj] at chosen
      exact chosen.symm
  · rw [boundTo, dif_neg bound]
    exact ⟨nofun, fun kept => absurd ⟨snapshot, kept⟩ bound⟩

omit [Sha256] in
theorem boundTo_eq_none (unbound : held.boundTo coordinate = none)
    (kept : held snapshot.key = some snapshot) : snapshot.coordinate ≠ coordinate := by
  intro same
  have bound : ∃ snapshot, held snapshot.key = some snapshot ∧ snapshot.coordinate = coordinate :=
    ⟨snapshot, kept, same⟩
  rw [boundTo, dif_pos bound] at unbound
  cases unbound

/-- A write under a key, of a coordinate that no other key has. -/
theorem Sound.write (sound : held.Sound) {key : StoreKey} (written : snapshot.Sound key)
    (apart : ∀ k other, held k = some other → other.coordinate = snapshot.coordinate → k = key) :
    Sound (Function.update held key (some snapshot)) := by
  refine ⟨forall_update sound.sound written, fun leftKey rightKey left right => ?_⟩
  intro keptLeft keptRight same
  by_cases first : leftKey = key
  · subst first
    rw [Function.update_self] at keptLeft
    cases keptLeft
    by_cases second : rightKey = leftKey
    · exact second.symm
    · rw [Function.update_of_ne second] at keptRight
      exact (apart _ _ keptRight same.symm).symm
  · rw [Function.update_of_ne first] at keptLeft
    by_cases second : rightKey = key
    · subst second
      rw [Function.update_self] at keptRight
      cases keptRight
      exact apart _ _ keptLeft same
    · rw [Function.update_of_ne second] at keptRight
      exact sound.unique _ _ _ _ keptLeft keptRight same

/-- An Effect with a coordinate that is not bound may be added under its key. -/
theorem Sound.add (sound : held.Sound) (written : snapshot.Sound snapshot.key)
    (unbound : held.boundTo snapshot.coordinate = none) :
    Sound (Function.update held snapshot.key (some snapshot)) := by
  refine sound.write written fun k other kept same => ?_
  have key := (sound.sound _ _ kept).key
  rw [← key] at kept
  exact absurd same (boundTo_eq_none unbound kept)

/-! ## What the calls mean -/

/-- What an Effect that is there already answers to a creation. -/
def answer (held : EffectLedger) (existing : EffectSnapshot) (request : EffectCreateRequest)
    (authority : AuthorityContext) (otherwise : HarnessError) :
    Except HarnessError (EffectSnapshot × EffectLedger) := do
  let same ← existing.effect.createMatches request authority
  if same then .ok (existing, held) else .error otherwise

/-- A creation, by a store that has room for the times it `admits`. -/
noncomputable def create (held : EffectLedger) (admits : UInt64 → Except HarnessError Unit)
    (effectId : EffectId) (request : EffectCreateRequest) (appliedAtMs : UInt64)
    (authority : AuthorityContext) : Except HarnessError (EffectSnapshot × EffectLedger) := do
  validateAccess effectId authority
  let effect ← Effect.new request appliedAtMs authority
  let snapshot : EffectSnapshot := ⟨effectId, authority.tenantId, 1, effect⟩
  match held snapshot.key with
  | some existing => held.answer existing request authority (existsDifferently effectId)
  | none =>
    match held.boundTo snapshot.coordinate with
    | some existing => held.answer existing request authority keyBound
    | none => do
      admits appliedAtMs
      .ok (snapshot, Function.update held snapshot.key (some snapshot))

def load (held : EffectLedger) (effectId : EffectId) (authority : AuthorityContext) :
    Except HarnessError (Option EffectSnapshot) := do
  validateAccess effectId authority
  .ok (held (storageKey effectId authority.tenantId))

/-- The result and the ledger after a command. -/
def apply (held : EffectLedger) (effectId : EffectId) (expectedRevision : UInt64)
    (command : EffectCommand) (appliedAtMs : UInt64) (authority : AuthorityContext) :
    Except HarnessError (EffectCommandResult × EffectLedger) := do
  validateAccess effectId authority
  validateExpectedRevision expectedRevision
  let current ← orError (missingEffect effectId) (held (storageKey effectId authority.tenantId))
  let recognized ← current.effect.recognizesCommand command authority
  if recognized then .ok (⟨current, .duplicate⟩, held)
  else do
    rejectIf (current.revision != expectedRevision)
      (.effectConflict effectId expectedRevision current.revision)
    let (effect, outcome) ← current.effect.apply command appliedAtMs authority
    let revision ← nextRevision current.revision
    let snapshot : EffectSnapshot := ⟨effectId, current.tenantId, revision, effect⟩
    .ok (⟨snapshot, outcome⟩, Function.update held snapshot.key (some snapshot))

/-! ## Creations of a bound coordinate -/

/-- The coordinate a creation asks for. -/
def asks (request : EffectCreateRequest) (tenantId : Option String) : IdempotencyCoordinate :=
  idempotencyCoordinate (tenantStorageKey tenantId) request.operation request.idempotencyKey

/-- The history of an Effect begins with a creation at its coordinate. -/
theorem coordinate_of_creation {e : Effect} (reached : e.Reachable) {actor : ActorIdentity}
    (created : e.creation = some (request, actor)) :
    request.operation = e.operation ∧ request.idempotencyKey = e.idempotencyKey := by
  have positive : (1 : UInt64) ≠ 0 := by decide
  obtain ⟨_, _, same⟩ := reached.recreate created positive
  exact same

/-- **The same request of the same actor returns the canonical Effect**, as it is now, unless
the identity it proposes belongs to another Effect. -/
theorem Sound.create_same (sound : held.Sound) (kept : held canonical.key = some canonical)
    {actor : ActorIdentity} (created : canonical.effect.creation = some (request, actor))
    {appliedAtMs : UInt64} (positive : appliedAtMs ≠ 0) {effectId : EffectId}
    (identity : validateIdentity "Effect" effectId = .ok ()) (proposed : effectId = canonical.id ∨
      held (storageKey effectId canonical.tenantId) = none)
    (admits : UInt64 → Except HarnessError Unit) :
    held.create admits effectId request appliedAtMs ⟨actor, canonical.tenantId⟩ =
      .ok (canonical, held) := by
  have stored := sound.sound _ _ kept
  obtain ⟨again, accepted, operation, idempotencyKey⟩ := stored.reached.recreate created positive
  rw [stored.owner] at accepted
  obtain ⟨authorized, ⟨_, digested⟩, owner, operation', idempotencyKey', _⟩ :=
    Effect.new_eq_ok accepted
  obtain ⟨actorValid, tenantValid, _⟩ := attributedDigest_eq_ok.1 digested
  have coordinate : EffectSnapshot.coordinate ⟨effectId, canonical.tenantId, 1, again⟩ =
      canonical.coordinate := by
    rw [EffectSnapshot.coordinate, operation', idempotencyKey', operation, idempotencyKey]
    rfl
  have bound : held.boundTo (EffectSnapshot.coordinate ⟨effectId, canonical.tenantId, 1, again⟩) =
      some canonical := sound.boundTo_eq_some.2 ⟨kept, coordinate.symm⟩
  have recognized : ∀ otherwise, held.answer canonical request ⟨actor, canonical.tenantId⟩ otherwise =
      .ok (canonical, held) := by
    intro otherwise
    refine bind_eq_ok.2 ⟨true, ?_, rfl⟩
    exact stored.reached.createMatches (validateAuthority_ok actorValid tenantValid) stored.owner
      created
  refine seq_eq_ok.2 ⟨seq_eq_ok.2 ⟨validateAuthority_ok actorValid tenantValid, identity⟩,
    bind_eq_ok.2 ⟨again, accepted, ?_⟩⟩
  dsimp only
  rcases proposed with rfl | free
  · rw [show held (EffectSnapshot.key ⟨canonical.id, canonical.tenantId, 1, again⟩) =
      some canonical from kept]
    exact recognized _
  · rw [show held (EffectSnapshot.key ⟨effectId, canonical.tenantId, 1, again⟩) = none from free,
      bound]
    exact recognized _

/-- **Another request for a bound coordinate fails**, as far as SHA-256 tells it apart from
the requests that created the Effects that are kept. -/
theorem Sound.create_different (sound : held.Sound) {authority : AuthorityContext}
    (bound : held.boundTo (asks request authority.tenantId) = some canonical)
    (different : canonical.effect.creation ≠ some (request, authority.actor))
    (apart : ∀ key snapshot, held key = some snapshot →
      snapshot.effect.TellsApart request authority.actor) (effectId : EffectId)
    (appliedAtMs : UInt64) (admits : UInt64 → Except HarnessError Unit) :
    ∃ e, held.create admits effectId request appliedAtMs authority = .error e := by
  cases answered : held.create admits effectId request appliedAtMs authority with
  | error e => exact ⟨e, rfl⟩
  | ok result =>
    exfalso
    replace answered := rest_ok answered
    obtain ⟨effect, created, answered⟩ := bind_eq_ok.1 answered
    obtain ⟨_, _, _, operation, idempotencyKey, _⟩ := Effect.new_eq_ok created
    have coordinate : EffectSnapshot.coordinate ⟨effectId, authority.tenantId, 1, effect⟩ =
        asks request authority.tenantId := by
      rw [EffectSnapshot.coordinate, operation, idempotencyKey]
      rfl
    -- whoever answers was created by this request, and so is the canonical Effect
    have same : ∀ key existing otherwise, held key = some existing →
        held.answer existing request authority otherwise ≠ .ok result := by
      intro key existing otherwise kept answered
      obtain ⟨recognized, matched, answered⟩ := bind_eq_ok.1 answered
      cases recognized with
      | false => cases answered
      | true =>
        have stored := sound.sound _ _ kept
        obtain ⟨owner, creation⟩ :=
          stored.reached.creation_of_matches (apart _ _ kept) matched
        obtain ⟨operation, idempotencyKey⟩ := coordinate_of_creation stored.reached creation
        have asked : existing.coordinate = asks request authority.tenantId := by
          rw [EffectSnapshot.coordinate, asks, ← stored.owner, owner, operation, idempotencyKey]
        have found := sound.boundTo_eq_some.2 ⟨stored.key.symm ▸ kept, asked⟩
        rw [bound] at found
        cases found
        exact different creation
    dsimp only at answered
    rw [coordinate, bound] at answered
    cases here : held (EffectSnapshot.key ⟨effectId, authority.tenantId, 1, effect⟩) with
    | some existing =>
      rw [here] at answered
      exact same _ _ _ here answered
    | none =>
      rw [here] at answered
      exact same _ _ _ (sound.boundTo_eq_some.1 bound).1 answered

end EffectLedger

end Ledger

end YHarness.Effects

/-
# YHarness.Effects.Size -- an Effect never outgrows its encoding

Every text an accepted transition carries is bounded, so a transition takes at
most 3,700 bytes and a creation little more than its input.  A history of 4096
transitions therefore stays below the 16 MiB of an Effect (`Replays.fits`): the
number of transitions is the only limit an Effect can run into.
-/
import YHarness.Effects.Moves

namespace YHarness.Effects

open YHarness.Lib YHarness.Kernel

set_option autoImplicit false

/-! ## Texts -/

theorem identity_len {kind value : String} (valid : validateIdentity kind value = .ok ()) :
    stringLen value ≤ 514 :=
  plainText_len valid

variable {actor : ActorIdentity} {tenantId : Option String}

theorem effectActor_len (valid : validateActor actor = .ok ()) :
    actor.toJson.encodedLen ≤ 1200 := by
  rw [validateActor, mapError_eq_ok, ActorIdentity.validateCurrent, mapError_eq_ok] at valid
  exact actor_len valid

theorem effectDigest_len {value kind : String} (valid : validateDigest value kind = .ok ()) :
    stringLen value = 66 := by
  rw [validateDigest, rejectIf_eq_ok, Bool.not_eq_false'] at valid
  exact lowerSha256_len valid

theorem receipt_len {receipt : EffectReceipt} {appliedAtMs : UInt64}
    (valid : validateReceipt receipt appliedAtMs = .ok ()) :
    receipt.toJson.encodedLen ≤ 900 := by
  have keys : ∀ key ∈ ["source", "external_id", "observed_at_ms", "response_sha256"],
      stringLen key ≤ 20 := by decide
  simp only [List.forall_mem_cons] at keys
  obtain ⟨source, valid⟩ := seq_eq_ok.1 valid
  obtain ⟨external, valid⟩ := seq_eq_ok.1 valid
  replace valid := rest_ok valid
  obtain ⟨_, digest⟩ := seq_eq_ok.1 valid
  have sourceLen := capabilityName_len (mapError_eq_ok.1 source)
  have externalLen := identity_len external
  have digestLen := effectDigest_len digest
  have observedLen := jsonU64_len receipt.observedAtMs
  simp only [EffectReceipt.toJson, Json.encodedLen, fieldsLen, List.length_cons, List.length_nil]
  omega

theorem operation_len {operation : EffectOperation}
    (valid : validateOperation operation = .ok ()) : operation.toJson.encodedLen ≤ 310 := by
  have keys : ∀ key ∈ ["capability", "operation"], stringLen key ≤ 16 := by decide
  simp only [List.forall_mem_cons] at keys
  obtain ⟨capability, name⟩ := seq_eq_ok.1 valid
  have capabilityLen := capabilityName_len (mapError_eq_ok.1 capability)
  have nameLen := capabilityName_len (mapError_eq_ok.1 name)
  simp only [EffectOperation.toJson, Json.encodedLen, fieldsLen, List.length_cons, List.length_nil]
  omega

/-- The tenant field of a record, with the comma that follows it. -/
theorem tenantField_len (valid : validateTenant tenantId = .ok ()) :
    fieldsLen (skipNone "tenant_id" .str tenantId) +
      (skipNone "tenant_id" .str tenantId).length ≤ 280 := by
  have key : stringLen "tenant_id" ≤ 16 := by decide
  cases tenantId with
  | none => simp [skipNone, fieldsLen]
  | some tenant =>
    have tenantLen := tenant_len (mapError_eq_ok.1 valid)
    simp only [skipNone, fieldsLen, Json.encodedLen, List.length_cons, List.length_nil]
    omega

theorem input_len {input : Json} (valid : validateInput input = .ok ()) :
    input.encodedLen ≤ 131072 := by
  replace valid := rest_ok valid
  obtain ⟨size, bounded, _⟩ := bind_eq_ok.1 valid
  exact (boundedSerializedSize_eq_ok.1 (mapError_eq_ok.1 bounded)).1

/-! ## Transitions -/

/-- The texts of a status are bounded. -/
def EffectStatus.Sized : EffectStatus → Prop
  | pending .. => True
  | claimed lease => stringLen lease.id ≤ 514 ∧ lease.owner.toJson.encodedLen ≤ 1200
  | unknown _ leaseId reasonCode => stringLen leaseId ≤ 514 ∧ stringLen reasonCode ≤ 130
  | applied _ receipt => receipt.toJson.encodedLen ≤ 900
  | rejected _ reasonCode | cancelled reasonCode => stringLen reasonCode ≤ 130

theorem EffectStatus.Sized.len {status : EffectStatus} (sized : status.Sized) :
    status.toJson.encodedLen ≤ 2000 := by
  have keys : ∀ key ∈ ["status", "pending", "next_attempt", "not_before_ms", "claimed", "lease",
      "id", "owner", "attempt", "claimed_at_ms", "expires_at_ms", "unknown", "lease_id",
      "reason_code", "applied", "receipt", "rejected", "cancelled"], stringLen key ≤ 20 := by decide
  simp only [List.forall_mem_cons] at keys
  cases status with
  | pending nextAttempt notBeforeMs =>
    have attemptLen := jsonU32_len nextAttempt
    have timeLen := jsonU64_len notBeforeMs
    simp only [EffectStatus.toJson, Json.encodedLen, fieldsLen, List.length_cons,
      List.length_nil]
    omega
  | claimed lease =>
    obtain ⟨idLen, ownerLen⟩ := sized
    have attemptLen := jsonU32_len lease.attempt
    have claimedLen := jsonU64_len lease.claimedAtMs
    have expiresLen := jsonU64_len lease.expiresAtMs
    simp only [EffectStatus.toJson, EffectLease.toJson, Json.encodedLen, fieldsLen,
      List.length_cons, List.length_nil]
    omega
  | unknown attempt leaseId reasonCode =>
    obtain ⟨idLen, reasonLen⟩ := sized
    have attemptLen := jsonU32_len attempt
    simp only [EffectStatus.toJson, Json.encodedLen, fieldsLen, List.length_cons,
      List.length_nil]
    omega
  | applied attempt receipt =>
    have receiptLen : receipt.toJson.encodedLen ≤ 900 := sized
    have attemptLen := jsonU32_len attempt
    simp only [EffectStatus.toJson, Json.encodedLen, fieldsLen, List.length_cons,
      List.length_nil]
    omega
  | rejected attempt reasonCode =>
    have reasonLen : stringLen reasonCode ≤ 130 := sized
    have attemptLen := jsonU32_len attempt
    simp only [EffectStatus.toJson, Json.encodedLen, fieldsLen, List.length_cons,
      List.length_nil]
    omega
  | cancelled reasonCode =>
    have reasonLen : stringLen reasonCode ≤ 130 := sized
    simp only [EffectStatus.toJson, Json.encodedLen, fieldsLen, List.length_cons,
      List.length_nil]
    omega

theorem settled_sized {attempt : UInt32} {reasonCode : String} {retryAtMs : Option UInt64}
    {status : EffectStatus} (reason : stringLen reasonCode ≤ 130)
    (settled : settledNotApplied attempt reasonCode retryAtMs = .ok status) : status.Sized := by
  cases retryAtMs with
  | none =>
    cases settled
    exact reason
  | some retry =>
    simp only [settledNotApplied] at settled
    split at settled
    · cases settled
      trivial
    · cases settled

/-- A transition keeps the texts bounded, and its own evidence is small. -/
theorem Moves.sized {used : List EffectLeaseId} {now : UInt64} {before after : EffectStatus}
    {kind : EffectTransitionKind} (moves : Moves used now actor before kind after)
    (sized : before.Sized) (actorLen : actor.toJson.encodedLen ≤ 1200) :
    after.Sized ∧ kind.toJson.encodedLen ≤ 1700 := by
  have keys : ∀ key ∈ ["event", "claimed", "lease_id", "attempt", "lease_duration_ms",
      "lease_renewed", "previous_expires_at_ms", "applied", "receipt", "reconciled",
      "not_applied", "reason_code", "retry_at_ms", "became_unknown", "expired", "cancelled",
      "lease.expired"], stringLen key ≤ 30 := by decide
  simp only [List.forall_mem_cons] at keys
  cases moves with
  | @claim attempt _ leaseDurationMs _ leaseId _ named =>
    have idLen := identity_len named
    have attemptLen := jsonU32_len attempt
    have durationLen := jsonU64_len leaseDurationMs
    refine ⟨⟨idLen, actorLen⟩, ?_⟩
    simp only [EffectTransitionKind.toJson, Json.encodedLen, fieldsLen, List.length_cons,
      List.length_nil]
    omega
  | @renew lease leaseDurationMs =>
    have idLen := sized.1
    have durationLen := jsonU64_len leaseDurationMs
    have previousLen := jsonU64_len lease.expiresAtMs
    refine ⟨⟨idLen, sized.2⟩, ?_⟩
    simp only [EffectTransitionKind.toJson, Json.encodedLen, fieldsLen, List.length_cons,
      List.length_nil]
    omega
  | @applied lease receipt _ _ valid =>
    have idLen := sized.1
    have receiptLen := receipt_len valid
    have attemptLen := jsonU32_len lease.attempt
    have flagLen := bool_len false
    refine ⟨receiptLen, ?_⟩
    simp only [EffectTransitionKind.toJson, Json.encodedLen, fieldsLen, List.length_cons,
      List.length_nil] at flagLen ⊢
    omega
  | @notApplied lease reasonCode retryAtMs _ _ _ reason _ settled =>
    have idLen := sized.1
    have reasonLen := capabilityName_len reason
    have retryLen := nullableU64_len retryAtMs
    have attemptLen := jsonU32_len lease.attempt
    have flagLen := bool_len false
    refine ⟨settled_sized reasonLen settled, ?_⟩
    simp only [EffectTransitionKind.toJson, Json.encodedLen, fieldsLen, List.length_cons,
      List.length_nil] at flagLen ⊢
    omega
  | @reported lease reasonCode _ _ reason =>
    have idLen := sized.1
    have reasonLen := capabilityName_len reason
    have attemptLen := jsonU32_len lease.attempt
    have flagLen := bool_len false
    refine ⟨⟨idLen, reasonLen⟩, ?_⟩
    simp only [EffectTransitionKind.toJson, Json.encodedLen, fieldsLen, List.length_cons,
      List.length_nil] at flagLen ⊢
    omega
  | @expired lease =>
    have idLen := sized.1
    have attemptLen := jsonU32_len lease.attempt
    have flagLen := bool_len true
    refine ⟨⟨idLen, by decide⟩, ?_⟩
    simp only [EffectTransitionKind.toJson, Json.encodedLen, fieldsLen, List.length_cons,
      List.length_nil] at flagLen ⊢
    omega
  | @reconciledApplied attempt leaseId _ receipt valid =>
    have idLen := sized.1
    have receiptLen := receipt_len valid
    have attemptLen := jsonU32_len attempt
    have flagLen := bool_len true
    refine ⟨receiptLen, ?_⟩
    simp only [EffectTransitionKind.toJson, Json.encodedLen, fieldsLen, List.length_cons,
      List.length_nil] at flagLen ⊢
    omega
  | @reconciledNotApplied attempt leaseId _ reasonCode retryAtMs _ reason _ settled =>
    have idLen := sized.1
    have reasonLen := capabilityName_len reason
    have retryLen := nullableU64_len retryAtMs
    have attemptLen := jsonU32_len attempt
    have flagLen := bool_len true
    refine ⟨settled_sized reasonLen settled, ?_⟩
    simp only [EffectTransitionKind.toJson, Json.encodedLen, fieldsLen, List.length_cons,
      List.length_nil] at flagLen ⊢
    omega
  | @cancel _ reasonCode reason =>
    have reasonLen := capabilityName_len reason
    refine ⟨reasonLen, ?_⟩
    simp only [EffectTransitionKind.toJson, Json.encodedLen, fieldsLen, List.length_cons,
      List.length_nil]
    omega

/-! ## Commands -/

/-- The attributed JSON of a command that records a small transition is small. -/
theorem attributed_len {command : EffectCommand} (actorValid : validateActor actor = .ok ())
    (tenantValid : validateTenant tenantId = .ok ())
    (id : validateIdentity "Effect command" command.id = .ok ())
    (kindLen : command.kind.toJson.encodedLen ≤ 2000) :
    (attributedCommand actor tenantId command.toJson).encodedLen ≤ maxEffectCommandJsonBytes := by
  have keys : ∀ key ∈ ["actor", "command", "id", "kind"], stringLen key ≤ 16 := by decide
  simp only [List.forall_mem_cons] at keys
  have actorLen := effectActor_len actorValid
  have tenantLen := tenantField_len tenantValid
  have idLen := identity_len id
  show _ ≤ 131072
  simp only [attributedCommand, EffectCommand.toJson, Json.encodedLen, fieldsLen, fieldsLen_append,
    List.length_append, List.length_cons, List.length_nil, List.cons_append]
  omega

/-! ## Histories -/

section History

variable [Sha256]

variable {tenantId : Option String}

theorem transition_len {t : EffectTransition} {past : List EffectTransition}
    (recorded : Recorded tenantId past t) {n : Nat} (kindLen : t.kind.toJson.encodedLen ≤ n) :
    t.toJson.encodedLen ≤ n + 2000 := by
  have keys : ∀ key ∈ ["sequence", "command_id", "command_sha256", "applied_at_ms", "actor",
      "kind"], stringLen key ≤ 16 := by decide
  simp only [List.forall_mem_cons] at keys
  have sequenceLen := jsonU64_len t.sequence
  have idLen := identity_len recorded.commandId
  have digestLen := lowerSha256_len (transitionDigest_lower recorded.digest)
  have timeLen := jsonU64_len t.appliedAtMs
  have actorLen := effectActor_len recorded.actor
  simp only [EffectTransition.toJson, Json.encodedLen, fieldsLen, List.length_cons,
    List.length_nil]
  omega

theorem Creation.len {t : EffectTransition} {p : EffectProjection} (creation : Creation t p) :
    t.kind.toJson.encodedLen ≤ 131072 + 1700 := by
  have keys : ∀ key ∈ ["event", "created", "operation", "idempotency_key", "input",
      "input_sha256", "not_before_ms"], stringLen key ≤ 20 := by decide
  simp only [List.forall_mem_cons] at keys
  obtain ⟨notBeforeMs, kind, _⟩ := creation.kind
  have tenantLen := tenantField_len creation.tenant
  have operationLen := operation_len creation.operation
  have keyLen := identity_len creation.key
  obtain ⟨accepted, digested⟩ := valueSha256_eq_ok.1 creation.input
  have inputLen := input_len accepted
  have digestLen : stringLen p.inputSha256 = 66 := by
    rw [digested]
    exact lowerSha256_len (Sha256.digest_lower _)
  have timeLen := jsonU64_len notBeforeMs
  rw [kind]
  simp only [EffectTransitionKind.toJson, Json.encodedLen, fieldsLen, fieldsLen_append,
    List.length_append, List.length_cons, List.length_nil, List.cons_append]
  omega

/-- **A history is small.** -/
theorem Replays.sized {ts : List EffectTransition} {p : EffectProjection}
    (replays : Replays tenantId ts p) :
    p.status.Sized ∧
      valuesLen (ts.map EffectTransition.toJson) ≤ 131072 + 3700 * ts.length := by
  induction replays with
  | @created t p recorded creation =>
    obtain ⟨notBeforeMs, _, status, _⟩ := creation.kind
    have length := transition_len recorded creation.len
    refine ⟨by rw [status]; trivial, ?_⟩
    simp only [List.map_cons, List.map_nil, valuesLen, List.length_cons, List.length_nil]
    omega
  | @moved past p _ t _ recorded moves ih =>
    obtain ⟨status, moves, rfl⟩ := moves
    obtain ⟨sized, total⟩ := ih
    obtain ⟨after, kindLen⟩ := moves.sized sized (effectActor_len recorded.actor)
    have length := transition_len recorded kindLen
    refine ⟨after, ?_⟩
    rw [List.map_append, valuesLen_append, List.length_append]
    simp only [List.map_cons, List.map_nil, valuesLen, List.length_cons, List.length_nil]
    omega

/-- **The byte limit never binds**: an Effect whose transitions are a history of at
most 4096 fits its encoding. -/
theorem Effect.encodedSize_of_replays {e : Effect}
    (replays : Replays e.tenantId e.transitions e.projection)
    (count : e.transitions.length ≤ maxEffectTransitions) :
    e.encodedSize = .ok e.toJson.encodedLen := by
  have keys : ∀ key ∈ ["operation", "idempotency_key", "input", "input_sha256", "created_at_ms",
      "status", "transitions"], stringLen key ≤ 20 := by decide
  simp only [List.forall_mem_cons] at keys
  obtain ⟨_, _, _, _, _, creation⟩ := replays.creation
  obtain ⟨sized, total⟩ := replays.sized
  have tenantLen : fieldsLen (skipNone "tenant_id" Json.str e.tenantId) +
      (skipNone "tenant_id" Json.str e.tenantId).length ≤ 280 := tenantField_len creation.tenant
  have operationLen : e.operation.toJson.encodedLen ≤ 310 := operation_len creation.operation
  have keyLen : stringLen e.idempotencyKey ≤ 514 := identity_len creation.key
  obtain ⟨accepted, digested⟩ := valueSha256_eq_ok.1 creation.input
  have inputLen : e.input.encodedLen ≤ 131072 := input_len accepted
  have digestLen : stringLen e.inputSha256 = 66 := by
    rw [show e.inputSha256 = _ from digested]
    exact lowerSha256_len (Sha256.digest_lower _)
  have timeLen := jsonU64_len e.createdAtMs
  have statusLen : e.status.toJson.encodedLen ≤ 2000 := sized.len
  have most : e.transitions.length ≤ 4096 := count
  rw [encodedSize, mapError_eq_ok, boundedSerializedSize_eq_ok]
  refine ⟨?_, rfl⟩
  show e.toJson.encodedLen ≤ 16777216
  simp only [Effect.toJson, Json.encodedLen, fieldsLen, fieldsLen_append, List.length_append,
    List.length_cons, List.length_nil, List.length_map]
  omega

end History

end YHarness.Effects

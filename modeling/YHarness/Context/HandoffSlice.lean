/-
# YHarness.Context.HandoffSlice -- what a Thread handoff hands over

`ThreadHandoffRequest.prepare` refuses a Thread with a running Turn.  For two stored Threads
without one (`handoff_slice_exact`): there is nothing to hand over exactly when no
model-visible Turn lies after the shared prefix; otherwise the slice is the longest suffix of
these Turns within the budgets, and with no Turn over the compaction limit in reach the only
failure is a newest Turn that is too large alone.  A returned request passes its own
validation, wraps every summary that fits, and is bound by its digest: another request with
that digest does not validate.
-/
import YHarness.Completion.Binding
import YHarness.Context.Scans
import YHarness.Context.ThreadHandoff
import YHarness.Kernel.Sizes

namespace YHarness.Context

open YHarness.Lib YHarness.Kernel
open YHarness.Runtime (TurnContextInput)
open YHarness.State (validateStateId validateStoredEvent ThreadAdmitted)

set_option autoImplicit false

/-! ## The shared prefix -/

/-- Two Turns that count as the same work. -/
structure EqualTurns (left right : Turn) : Prop where
  id : left.id = right.id
  status : left.status = right.status
  items : left.items.map comparedItem = right.items.map comparedItem

/-- `shared` is the length of the longest common prefix of equal Turns. -/
structure SharedPrefix (source target : List Turn) (shared : Nat) : Prop where
  inSource : shared ≤ source.length
  inTarget : shared ≤ target.length
  equal : List.Forall₂ EqualTurns (source.take shared) (target.take shared)
  longest : ∀ more, more ≤ source.length → more ≤ target.length →
    List.Forall₂ EqualTurns (source.take more) (target.take more) → more ≤ shared

theorem sameTurn_iff {left right : Turn} :
    sameTurn (left, right) = true ↔ EqualTurns left right := by
  simp only [sameTurn, Bool.and_eq_true, beq_iff_eq]
  exact ⟨fun ⟨⟨id, status⟩, items⟩ => ⟨id, status, items⟩,
    fun same => ⟨⟨same.id, same.status⟩, same.items⟩⟩

theorem takeWhile_shared (source target : List Turn) :
    SharedPrefix source target ((source.zip target).takeWhile sameTurn).length := by
  induction source generalizing target with
  | nil => exact ⟨Nat.zero_le _, Nat.zero_le _, by simp, fun _ none _ _ => by simpa using none⟩
  | cons left source ih =>
    cases target with
    | nil => exact ⟨Nat.zero_le _, Nat.zero_le _, by simp, fun _ _ none _ => by simpa using none⟩
    | cons right target =>
      rw [List.zip_cons_cons, List.takeWhile_cons]
      by_cases same : sameTurn (left, right) = true
      · obtain ⟨inSource, inTarget, equal, longest⟩ := ih target
        rw [if_pos same, List.length_cons]
        refine ⟨Nat.succ_le_succ inSource, Nat.succ_le_succ inTarget,
          .cons (sameTurn_iff.1 same) equal, fun more within within' agree => ?_⟩
        cases more with
        | zero => exact Nat.zero_le _
        | succ more =>
          obtain ⟨_, rest⟩ := List.forall₂_cons.1 agree
          exact Nat.succ_le_succ (longest more (Nat.le_of_succ_le_succ within)
            (Nat.le_of_succ_le_succ within') rest)
      · rw [if_neg same]
        refine ⟨Nat.zero_le _, Nat.zero_le _, by simp, fun more _ _ agree => ?_⟩
        cases more with
        | zero => exact le_rfl
        | succ more => exact absurd (sameTurn_iff.2 (List.forall₂_cons.1 agree).1) same

/-! ## Checks that pass -/

theorem validId_len {kind value : String} {u : Unit} (valid : validateId kind value = .ok u) :
    value.toList.any isControl = false ∧ stringLen value ≤ 514 := by
  simp only [validateId, rejectIf_eq_ok, Bool.or_eq_false_iff, decide_eq_false_iff_not, Nat.not_lt,
    hasControl] at valid
  obtain ⟨⟨_, short⟩, plain⟩ := valid
  have length := stringLen_le_of_noControl plain
  exact ⟨plain, by omega⟩

theorem validateId_of_state {kind other value : String}
    (valid : validateStateId other value = .ok ()) : validateId kind value = .ok () := by
  rw [validateStateId, rejectIf_eq_ok] at valid
  rw [validateId, rejectIf_eq_ok, valid]

theorem validateThreadTurns_ok {threadId : ThreadId} {role : String} {turns : List Turn}
    {seen : List TurnId} (identities : ∀ turn ∈ turns, validateStateId "turn" turn.id = .ok ())
    (owned : ∀ turn ∈ turns, turn.threadId = threadId)
    (settled : ∀ turn ∈ turns, turn.status ≠ .running)
    (distinct : (turns.map (·.id)).Nodup) (unseen : ∀ turn ∈ turns, turn.id ∉ seen) :
    validateThreadTurns threadId role seen turns = .ok () := by
  induction turns generalizing seen with
  | nil => rfl
  | cons turn turns ih =>
    rw [List.map_cons, List.nodup_cons] at distinct
    have first := List.mem_cons_self (a := turn) (l := turns)
    have later : ∀ {one : Turn}, one ∈ turns → one ∈ turn :: turns := List.mem_cons_of_mem _
    rw [validateThreadTurns, validateId_of_state (identities turn first), ok_bind,
      owned turn first, bne_self_eq_false, rejectIf_false, ok_bind,
      decide_eq_false (unseen turn first), rejectIf_false, ok_bind,
      beq_eq_false_iff_ne.2 (settled turn first), rejectIf_false, ok_bind]
    refine ih (fun one member => identities one (later member))
      (fun one member => owned one (later member))
      (fun one member => settled one (later member)) distinct.2 fun one member => ?_
    rw [List.mem_cons, not_or]
    exact ⟨fun same => distinct.1 (same ▸ List.mem_map_of_mem member), unseen one (later member)⟩

/-- A stored Thread without a running Turn passes `validate_thread`. -/
theorem validateThread_ok [Sha256] {thread : Thread} (admitted : ThreadAdmitted thread)
    (settled : ∀ turn ∈ thread.turns, turn.status ≠ .running) (role : String) :
    validateThread thread role = .ok () := by
  rw [validateThread, validateId_of_state admitted.identity, ok_bind]
  exact validateThreadTurns_ok (fun turn member => (admitted.turns turn member).identity)
    admitted.wf.owned settled admitted.wf.turnsNodup (by simp)

/-! ## Digests -/

section Digests

variable [Sha256]

/-- What a request is hashed as: its Turns, and its boundary with their digest. -/
def boundBinding (request : ThreadHandoffRequest) : Json :=
  handoffSourceBinding request.sourceThreadId request.targetThreadId request.sharedPrefixTurns
    request.turns.length (Sha256.digest (.json (compactionTurnsJson request.turns)))
    request.olderSourceTurns

def handoffInputs (request : ThreadHandoffRequest) : List HashInput :=
  [.json (compactionTurnsJson request.turns), .json (boundBinding request)]

theorem handoffSourceSha256_eq_ok {request : ThreadHandoffRequest} {digest : String} :
    handoffSourceSha256 request.sourceThreadId request.targetThreadId request.sharedPrefixTurns
        request.turns request.olderSourceTurns = .ok digest ↔
      (compactionTurnsJson request.turns).encodedLen ≤ maxCompactionInputBytes ∧
        (boundBinding request).encodedLen ≤ maxTurnContextReferenceBytes ∧
        digest = Sha256.digest (.json (boundBinding request)) := by
  have hashed : ∀ {value : Json} {maximum : Nat} {out : String},
      boundedSerializedSha256 value maximum = .ok out ↔
        value.encodedLen ≤ maximum ∧ out = Sha256.digest (.json value) := by
    intro value maximum out
    simp only [boundedSerializedSha256, bind_eq_ok, boundedSerializedSize_eq_ok, ok_eq_ok]
    constructor
    · rintro ⟨_, ⟨fits, _⟩, same⟩
      exact ⟨fits, same⟩
    · rintro ⟨fits, same⟩
      exact ⟨_, ⟨fits, rfl⟩, same⟩
  simp only [handoffSourceSha256, bind_eq_ok, mapError_eq_ok, hashed]
  constructor
  · rintro ⟨_, ⟨fits, rfl⟩, small, same⟩
    exact ⟨fits, small, same⟩
  · rintro ⟨fits, small, same⟩
    exact ⟨_, ⟨fits, rfl⟩, small, same⟩

omit [Sha256] in
theorem compactionTurn_eq_of_json {left right : ConversationCompactionTurn}
    (same : left.toJson = right.toJson) : left = right := by
  obtain ⟨turnId, items⟩ := left
  obtain ⟨turnId', items'⟩ := right
  simp only [ConversationCompactionTurn.toJson, Json.obj.injEq, List.cons.injEq, Prod.mk.injEq,
    Json.str.injEq, Json.arr.injEq, true_and, and_true] at same
  obtain ⟨rfl, listed⟩ := same
  rw [List.map_injective_iff.2 Item.toJson_injective listed]

omit [Sha256] in
theorem turns_eq_of_json {left right : List ConversationCompactionTurn}
    (same : compactionTurnsJson left = compactionTurnsJson right) : left = right :=
  List.map_injective_iff.2 (fun _ _ => compactionTurn_eq_of_json) (Json.arr.inj same)

variable {request other : ThreadHandoffRequest}

/-- A digest that validates for two requests is of one slice: SHA-256 tells what they are
hashed as apart. -/
theorem slice_of_digest (apart : TellsApart (handoffInputs request ++ handoffInputs other))
    (same : Sha256.digest (.json (boundBinding request)) =
      Sha256.digest (.json (boundBinding other))) :
    request.sourceThreadId = other.sourceThreadId ∧
      request.targetThreadId = other.targetThreadId ∧
      request.sharedPrefixTurns = other.sharedPrefixTurns ∧ request.turns = other.turns ∧
      request.olderSourceTurns = other.olderSourceTurns := by
  have binding := apart _ (by simp [handoffInputs]) _ (by simp [handoffInputs]) same
  simp only [HashInput.json.injEq, boundBinding, handoffSourceBinding, Json.obj.injEq,
    List.cons.injEq, Prod.mk.injEq, Json.str.injEq, Json.nat.injEq, true_and, and_true] at binding
  obtain ⟨source, target, shared, _, turnsDigest, older⟩ := binding
  have turns := apart (.json (compactionTurnsJson request.turns)) (by simp [handoffInputs])
    (.json (compactionTurnsJson other.turns)) (by simp [handoffInputs]) turnsDigest
  exact ⟨source, target, shared, turns_eq_of_json (HashInput.json.inj turns), older⟩

/-- The facts a request that validates has established. -/
structure RequestValid (request : ThreadHandoffRequest) : Prop where
  version : request.formatVersion = threadHandoffFormatVersion
  source : validateId "source Thread" request.sourceThreadId = .ok ()
  target : validateId "target Thread" request.targetThreadId = .ok ()
  different : request.sourceThreadId ≠ request.targetThreadId
  filled : request.turns ≠ []
  few : request.turns.length ≤ maxCompactionInputTurns
  turns : ThreadHandoffRequest.validateTurns [] request.turns = .ok ()
  counted : request.turns.length + request.olderSourceTurns ≤ usizeMax
  light : (compactionTurnsJson request.turns).encodedLen ≤ maxCompactionInputBytes
  bound : (boundBinding request).encodedLen ≤ maxTurnContextReferenceBytes
  digest : request.sourceSha256 = Sha256.digest (.json (boundBinding request))

theorem validate_eq_ok {request : ThreadHandoffRequest} {u : Unit} :
    request.validate = .ok u ↔ RequestValid request := by
  simp only [ThreadHandoffRequest.validate, seq_eq_ok]
  simp only [bind_eq_ok, rejectIf_eq_ok, bne_eq_false_iff_eq, beq_eq_false_iff_ne,
    Bool.or_eq_false_iff, decide_eq_false_iff_not, Nat.not_lt, orError_eq_ok,
    checkedAdd_eq_some, handoffSourceSha256_eq_ok]
  constructor
  · rintro ⟨version, source, target, different, ⟨filled, few⟩, turns, _, ⟨rfl, counted⟩, _,
      ⟨light, bound, rfl⟩, digest⟩
    exact ⟨version, source, target, different, by simpa using filled, few, turns, counted, light,
      bound, digest⟩
  · rintro ⟨version, source, target, different, filled, few, turns, counted, light, bound, digest⟩
    exact ⟨version, source, target, different, ⟨by simpa using filled, few⟩, turns, _,
      ⟨rfl, counted⟩, _, ⟨light, bound, rfl⟩, digest⟩

/-- **Tampering.**  Two requests of one digest that both validate are the same request. -/
theorem request_bound (valid : RequestValid request) (otherValid : RequestValid other)
    (digest : other.sourceSha256 = request.sourceSha256)
    (apart : TellsApart (handoffInputs request ++ handoffInputs other)) : other = request := by
  have same : Sha256.digest (.json (boundBinding request)) =
      Sha256.digest (.json (boundBinding other)) := by
    rw [← valid.digest, ← otherValid.digest, digest]
  have version := valid.version.trans otherValid.version.symm
  obtain ⟨source, target, shared, turns, older⟩ := slice_of_digest apart same
  cases request
  cases other
  simp_all

end Digests

/-! ## Encodings that fit -/

/-- The keys and fixed texts of a binding and of a reference are short. -/
theorem handoffKeys_len : ∀ key ∈ ["format_version", "source_thread_id", "target_thread_id",
    "shared_prefix_turns", "included_source_turns", "turns_sha256", "older_source_turns", "format",
    "y-harness.thread-handoff", "version", "first_included_turn_id", "last_included_turn_id",
    "source_sha256"], stringLen key ≤ 26 := by
  decide

variable {request : ThreadHandoffRequest}

theorem binding_len [Sha256] (source : validateId "source Thread" request.sourceThreadId = .ok ())
    (target : validateId "target Thread" request.targetThreadId = .ok ())
    (shared : request.sharedPrefixTurns < 2 ^ 64) (count : request.turns.length < 2 ^ 64)
    (older : request.olderSourceTurns < 2 ^ 64) :
    (boundBinding request).encodedLen ≤ maxTurnContextReferenceBytes := by
  have keys := handoffKeys_len
  simp only [List.forall_mem_cons] at keys
  obtain ⟨_, source⟩ := validId_len source
  obtain ⟨_, target⟩ := validId_len target
  have shared := toDigits_length_le shared
  have count := toDigits_length_le count
  have older := toDigits_length_le older
  have version : (Nat.toDigits 10 threadHandoffFormatVersion).length ≤ 20 := by decide
  have digest := lowerSha256_len (Sha256.digest_lower (.json (compactionTurnsJson request.turns)))
  simp only [boundBinding, handoffSourceBinding, Json.encodedLen, fieldsLen, List.length_cons,
    List.length_nil, maxTurnContextReferenceBytes]
  omega

theorem reference_len [Sha256] (valid : RequestValid request)
    (shared : request.sharedPrefixTurns < 2 ^ 64) {first last : TurnId} {kind kind' : String}
    (firstValid : validateId kind first = .ok ()) (lastValid : validateId kind' last = .ok ()) :
    (request.referenceJson first last).encodedLen ≤ maxTurnContextReferenceBytes := by
  have keys := handoffKeys_len
  simp only [List.forall_mem_cons] at keys
  obtain ⟨_, source⟩ := validId_len valid.source
  obtain ⟨_, target⟩ := validId_len valid.target
  obtain ⟨_, first⟩ := validId_len firstValid
  obtain ⟨_, last⟩ := validId_len lastValid
  have counted := valid.counted
  simp only [usizeMax] at counted
  have shared := toDigits_length_le shared
  have count : (Nat.toDigits 10 request.turns.length).length ≤ 20 := toDigits_length_le (by omega)
  have older : (Nat.toDigits 10 request.olderSourceTurns).length ≤ 20 :=
    toDigits_length_le (by omega)
  have version : (Nat.toDigits 10 threadHandoffFormatVersion).length ≤ 20 := by decide
  have digest : stringLen request.sourceSha256 = 66 := by
    rw [valid.digest]
    exact lowerSha256_len (Sha256.digest_lower _)
  simp only [ThreadHandoffRequest.referenceJson, Json.encodedLen, fieldsLen, List.length_cons,
    List.length_nil, maxTurnContextReferenceBytes]
  omega

/-! ## Context from a request -/

theorem lowerSha256_plain {value : String} (lower : isLowerSha256 value = true) :
    value.toList.any isControl = false := by
  rw [List.any_eq_false]
  intro c member
  have bytes : ∀ b ∈ String.utf8EncodeChar c, 48 ≤ b.toNat ∧ b.toNat ≤ 102 := by
    intro b written
    have among : b ∈ utf8Bytes value := by
      rw [utf8Bytes_eq]
      exact List.mem_flatMap_of_mem member written
    simp only [isLowerSha256, Bool.and_eq_true, List.all_eq_true, Bool.or_eq_true,
      decide_eq_true_eq] at lower
    have digit := lower.2 b among
    omega
  obtain ⟨b, written⟩ : ∃ b, b ∈ String.utf8EncodeChar c := by
    refine List.exists_mem_of_ne_nil _ ?_
    unfold String.utf8EncodeChar
    dsimp only
    split_ifs <;> simp
  have range := bytes b written
  rw [ascii_of_byte written (by omega)] at range
  rw [Bool.not_eq_true]
  exact not_isControl (by omega) (by omega)

section Wrap

variable [Sha256] {request : ThreadHandoffRequest}

theorem reference_plain (valid : RequestValid request) {first last : TurnId} {kind kind' : String}
    (firstValid : validateId kind first = .ok ()) (lastValid : validateId kind' last = .ok ()) :
    hasControl (request.referenceJson first last).text = false := by
  have digest : request.sourceSha256.toList.any isControl = false := by
    rw [valid.digest]
    exact lowerSha256_plain (Sha256.digest_lower _)
  have source := (validId_len valid.source).1
  have target := (validId_len valid.target).1
  have first_plain := (validId_len firstValid).1
  have last_plain := (validId_len lastValid).1
  refine fields_text_plain fun field member => ?_
  have keys : ∀ key ∈ ["format", "version", "source_thread_id", "target_thread_id",
      "shared_prefix_turns", "included_source_turns", "first_included_turn_id",
      "last_included_turn_id", "older_source_turns", "source_sha256",
      "y-harness.thread-handoff"], key.toList.any isControl = false := by decide
  simp only [List.mem_cons, List.not_mem_nil, or_false, forall_eq_or_imp, forall_eq] at keys member
  rcases member with rfl | rfl | rfl | rfl | rfl | rfl | rfl | rfl | rfl | rfl <;>
    exact ⟨by simp only [keys], by simp only [Json.PlainLeaf, keys, source, target, first_plain,
      last_plain, digest]⟩

omit [Sha256] in
theorem validateTurns_ids {turns : List ConversationCompactionTurn} {seen : List TurnId} {u : Unit}
    (valid : ThreadHandoffRequest.validateTurns seen turns = .ok u) :
    ∀ turn ∈ turns, validateId "handoff Turn" turn.turnId = .ok () := by
  induction turns generalizing seen with
  | nil => exact fun turn none => by cases none
  | cons turn turns ih =>
    simp only [ThreadHandoffRequest.validateTurns, seq_eq_ok] at valid
    intro one member
    rcases List.mem_cons.1 member with rfl | later
    · exact valid.1
    · exact ih valid.2.2.2.2 one later

/-- The reference of a valid request is encoded, within its bound and without control
characters. -/
theorem reference_ok (valid : RequestValid request) (shared : request.sharedPrefixTurns < 2 ^ 64) :
    ∃ text, request.reference = .ok text ∧ isBlank text = false ∧
      text.utf8ByteSize ≤ maxTurnContextReferenceBytes ∧ hasControl text = false := by
  have is_first := List.head?_eq_some_head valid.filled
  have is_last := List.getLast?_eq_some_getLast valid.filled
  generalize request.turns.head valid.filled = first at is_first
  generalize request.turns.getLast valid.filled = last at is_last
  have firstValid := validateTurns_ids valid.turns first (List.mem_of_head? is_first)
  have lastValid := validateTurns_ids valid.turns last (List.mem_of_getLast? is_last)
  have fits := reference_len valid shared firstValid lastValid
  have opened : (request.referenceJson first.turnId last.turnId).text.toList =
      '\x7b' :: (request.referenceJson first.turnId last.turnId).chars.tail := by
    rw [Json.text, String.toList_ofList]
    rfl
  refine ⟨(request.referenceJson first.turnId last.turnId).text, ?_, ?_, ?_, ?_⟩
  · rw [ThreadHandoffRequest.reference, is_first, orError, ok_bind, is_last, orError, ok_bind]
    dsimp only
    rw [boundedSerializedSize, if_pos fits]
    rfl
  · rw [isBlank, opened, List.all_cons, show isWhitespace '\x7b' = false from by decide,
      Bool.false_and]
  · rwa [text_size]
  · exact reference_plain valid firstValid lastValid

omit [Sha256] in
theorem not_blank_append {first : String} (visible : isBlank first = false) (second : String) :
    isBlank (first ++ second) = false := by
  rw [isBlank] at visible
  rw [isBlank, String.toList_append, List.all_append, visible, Bool.false_and]

omit [Sha256] in
theorem wrapped_not_blank (request : ThreadHandoffRequest) (summary : String) :
    isBlank (request.wrapped summary) = false := by
  have header : isBlank "[Derived Thread handoff: non-authoritative summary of " = false := by
    decide +kernel
  exact not_blank_append (not_blank_append (not_blank_append (not_blank_append (not_blank_append
    header _) _) _) _) _

/-- `to_context` wraps every summary whose text fits. -/
theorem toContext_ok (valid : RequestValid request) (shared : request.sharedPrefixTurns < 2 ^ 64)
    {summary : String} (written : isBlank summary = false)
    (fits : (request.wrapped summary).utf8ByteSize ≤ maxTurnContextInputBytes) :
    ∃ reference, request.reference = .ok reference ∧ request.toContext summary =
      .ok ⟨"thread-handoff", reference, request.wrapped summary⟩ := by
  obtain ⟨reference, encoded, visible, small, plain⟩ := reference_ok valid shared
  have text := wrapped_not_blank request summary
  have light : checkedAdd 0 (request.wrapped summary).utf8ByteSize =
      some (request.wrapped summary).utf8ByteSize := by
    rw [checkedAdd_eq_some, Nat.zero_add]
    exact ⟨rfl, fits.trans (by decide)⟩
  have bounded : ¬ maxTurnContextTotalBytes < (request.wrapped summary).utf8ByteSize :=
    Nat.not_lt.2 (fits.trans (by decide))
  have checked : validateTurnContextInputs
      [⟨"thread-handoff", reference, request.wrapped summary⟩] = .ok () := by
    have counted : turnContextTotal [] 0
        [⟨"thread-handoff", reference, request.wrapped summary⟩] =
          .ok (request.wrapped summary).utf8ByteSize := by
      have named : validateCapabilityName "Turn context source" "thread-handoff" = .ok () := by
        decide
      refine seq_eq_ok.2 ⟨named, seq_eq_ok.2 ⟨?_, seq_eq_ok.2 ⟨rfl, seq_eq_ok.2 ⟨?_, ?_⟩⟩⟩⟩
      · simp [visible, plain, Nat.not_lt.2 small]
      · simp [text, Nat.not_lt.2 fits]
      · exact bind_eq_ok.2 ⟨_, orError_eq_ok.2 light, rfl⟩
    rw [validateTurnContextInputs, counted]
    simp [rejectIf, bounded, maxTurnContextBlocks]
  have accepted : request.validate = .ok () := validate_eq_ok.2 valid
  refine ⟨reference, encoded, ?_⟩
  rw [ThreadHandoffRequest.toContext, accepted, ok_bind, written, rejectIf_false,
    ok_bind, encoded, ok_bind]
  dsimp only
  rw [checked, ok_bind]

end Wrap

/-! ## The prepared slice -/

/-- The model-visible Turns of the source after the shared prefix. -/
def sourceOnly (source : Thread) (shared : Nat) : List Turn :=
  visibleTurns (source.turns.drop shared)

/-- The Turns a summarizer may be handed. -/
abbrev HandedOver (config : ThreadHandoffConfig) : List Turn → Prop :=
  (handoffScan config).Supplies

/-- The request holds the longest suffix of the source-only Turns within the budgets, and
counts the others. -/
structure ExactSlice (source target : Thread) (config : ThreadHandoffConfig) (shared : Nat)
    (request : ThreadHandoffRequest) (older slice : List Turn) : Prop where
  version : request.formatVersion = threadHandoffFormatVersion
  fromThread : request.sourceThreadId = source.id
  toThread : request.targetThreadId = target.id
  prefixTurns : request.sharedPrefixTurns = shared
  tiles : sourceOnly source shared = older ++ slice
  longest : LongestSuffix (HandedOver config) (sourceOnly source shared) slice
  turns : request.turns = slice.map compactionTurn
  leftOut : request.olderSourceTurns = older.length

/-- No source-only Turn that the scan reaches beyond the newest is over the compaction limit.
It reaches the Turn before a run of newest Turns that fits and leaves room for one more. -/
def OlderSourceTurnsFit (source : Thread) (config : ThreadHandoffConfig) (shared : Nat) : Prop :=
  ∀ older turn window newest, sourceOnly source shared = older ++ turn :: (window ++ [newest]) →
    HandedOver config (window ++ [newest]) →
    (window ++ [newest]).length < config.maxInputTurns →
    (compactionTurn turn).toJson.encodedLen ≤ maxCompactionInputBytes

section Prepare

variable [Sha256] {source target : Thread} {config : ThreadHandoffConfig}

omit [Sha256] in
theorem handoffConfig_bounds (valid : config.validate = .ok ()) :
    1 ≤ config.maxInputTurns ∧ config.maxInputTurns ≤ maxCompactionInputTurns ∧
      config.inputBudgetBytes ≤ maxCompactionInputBytes := by
  simp only [ThreadHandoffConfig.validate, seq_eq_ok, rejectIf_eq_ok, Bool.not_eq_false', inRange,
    Bool.and_eq_true, decide_eq_true_eq] at valid
  exact ⟨valid.1.1, valid.1.2, valid.2.2⟩

omit [Sha256] in
theorem validateTurns_ok {turns : List Turn} {seen : List TurnId}
    (identities : ∀ turn ∈ turns, validateStateId "turn" turn.id = .ok ())
    (visible : ∀ turn ∈ turns, hasModelVisibleItems turn.items = true)
    (presented : Presented turns) (distinct : (turns.map (·.id)).Nodup)
    (unseen : ∀ turn ∈ turns, turn.id ∉ seen) :
    ThreadHandoffRequest.validateTurns seen (turns.map compactionTurn) = .ok () := by
  induction turns generalizing seen with
  | nil => rfl
  | cons turn turns ih =>
    rw [List.map_cons, List.nodup_cons] at distinct
    have first := List.mem_cons_self (a := turn) (l := turns)
    have later : ∀ {one : Turn}, one ∈ turns → one ∈ turn :: turns := List.mem_cons_of_mem _
    have filled : (compactionTurn turn).items.isEmpty = false := by
      rw [compactionTurn, visible_iff, visible turn first]
      rfl
    have json : validateConversationItemsJson (compactionTurn turn).items = .ok () :=
      checkAll_eq_ok.2 fun item member => (presented turn first item member).json
    have identity : validateId "handoff Turn" (compactionTurn turn).turnId = .ok () :=
      validateId_of_state (identities turn first)
    have fresh : decide ((compactionTurn turn).turnId ∈ seen) = false :=
      decide_eq_false (unseen turn first)
    rw [List.map_cons, ThreadHandoffRequest.validateTurns, identity, ok_bind, fresh,
      rejectIf_false, ok_bind, filled, rejectIf_false, ok_bind, json, ok_bind]
    refine ih (fun one member => identities one (later member))
      (fun one member => visible one (later member))
      (fun one member => presented one (later member)) distinct.2 fun one member => ?_
    have other : one.id ≠ turn.id := fun same =>
      distinct.1 (same ▸ List.mem_map_of_mem member)
    exact List.not_mem_cons_of_ne_of_not_mem other (unseen one (later member))

/-- The shape of `prepare` once its checks have passed. -/
theorem handoff_eq (sourceAdmitted : ThreadAdmitted source) (targetAdmitted : ThreadAdmitted target)
    (different : source.id ≠ target.id)
    (sourceSettled : ∀ turn ∈ source.turns, turn.status ≠ .running)
    (targetSettled : ∀ turn ∈ target.turns, turn.status ≠ .running)
    (valid : config.validate = .ok ()) :
    ThreadHandoffRequest.prepare source target config =
      if sourceOnly source (sharedPrefix source target) = [] then .ok none
      else scanBack (handoffScan config).offer
          (sourceOnly source (sharedPrefix source target)).reverse (windowOf []) >>= fun window =>
        handoffSourceSha256 source.id target.id (sharedPrefix source target) window.turns
          ((sourceOnly source (sharedPrefix source target)).length - window.turns.length) >>=
            fun sourceSha256 => .ok (some {
              formatVersion := threadHandoffFormatVersion
              sourceThreadId := source.id
              targetThreadId := target.id
              sharedPrefixTurns := sharedPrefix source target
              turns := window.turns
              olderSourceTurns :=
                (sourceOnly source (sharedPrefix source target)).length - window.turns.length
              sourceSha256 }) := by
  have scanned : (handoffScan config).run 0
      (source.turns.drop (sharedPrefix source target)).reverse .empty =
      scanBack (handoffScan config).offer
        (sourceOnly source (sharedPrefix source target)).reverse (windowOf []) := by
    rw [WindowScan.run_eq, List.drop_zero, visibleTurns_reverse]
    rfl
  rw [ThreadHandoffRequest.prepare, valid, ok_bind,
    validateThread_ok sourceAdmitted sourceSettled, ok_bind,
    validateThread_ok targetAdmitted targetSettled, ok_bind, beq_eq_false_iff_ne.2 different,
    rejectIf_false, ok_bind]
  have candidates : ((source.turns.drop (sharedPrefix source target)).filter fun turn =>
      hasModelVisibleItems turn.items) = sourceOnly source (sharedPrefix source target) := rfl
  dsimp only
  rw [scanned, candidates]
  by_cases none : sourceOnly source (sharedPrefix source target) = []
  · rw [if_pos none, if_pos (List.length_eq_zero_iff.2 none)]
  · rw [if_neg none, if_neg fun empty => none (List.length_eq_zero_iff.1 empty)]

theorem presented_sourceOnly (admitted : ThreadAdmitted source) (shared : Nat) :
    Presented (sourceOnly source shared) :=
  fun turn member => presented_of_admitted admitted.items turn
    (List.mem_of_mem_drop (List.mem_of_mem_filter member))

/-- The slice found for a stored Thread has a digest and makes a request that validates. -/
theorem request_of_slice (sourceAdmitted : ThreadAdmitted source)
    (targetAdmitted : ThreadAdmitted target) (different : source.id ≠ target.id)
    (valid : config.validate = .ok ()) {shared : Nat} (within : shared ≤ source.turns.length)
    {older slice : List Turn} (tiles : sourceOnly source shared = older ++ slice)
    (supplied : HandedOver config slice) (filled : slice ≠ []) :
    ∃ request : ThreadHandoffRequest,
      handoffSourceSha256 source.id target.id shared (slice.map compactionTurn) older.length =
        .ok request.sourceSha256 ∧
      request = ⟨threadHandoffFormatVersion, source.id, target.id, shared,
        slice.map compactionTurn, older.length, request.sourceSha256⟩ ∧
      RequestValid request ∧ request.sharedPrefixTurns < 2 ^ 64 := by
  obtain ⟨_, atMost, bounded⟩ := handoffConfig_bounds valid
  have few := sourceAdmitted.turns_length
  have sub : (sourceOnly source shared).Sublist source.turns :=
    List.filter_sublist.trans (List.drop_sublist _ _)
  have slice_sub : slice.Sublist source.turns :=
    (List.sublist_append_right older slice).trans (tiles ▸ sub)
  have total := sub.length_le
  rw [tiles, List.length_append] at total
  simp only [State.maxStateRecoveryEvents] at few
  have member : ∀ {turn : Turn}, turn ∈ slice → turn ∈ source.turns := slice_sub.mem
  obtain ⟨sha, digest⟩ : ∃ sha, sha = Sha256.digest (.json (boundBinding
      ⟨threadHandoffFormatVersion, source.id, target.id, shared, slice.map compactionTurn,
        older.length, ""⟩)) := ⟨_, rfl⟩
  let request : ThreadHandoffRequest := ⟨threadHandoffFormatVersion, source.id, target.id, shared,
    slice.map compactionTurn, older.length, sha⟩
  have sourceId : validateId "source Thread" request.sourceThreadId = .ok () :=
    validateId_of_state sourceAdmitted.identity
  have targetId : validateId "target Thread" request.targetThreadId = .ok () :=
    validateId_of_state targetAdmitted.identity
  have count : request.turns.length = slice.length := List.length_map _
  have bound : (boundBinding request).encodedLen ≤ maxTurnContextReferenceBytes :=
    binding_len sourceId targetId (show shared < 2 ^ 64 by omega) (by rw [count]; omega)
      (show older.length < 2 ^ 64 by omega)
  have light : (compactionTurnsJson request.turns).encodedLen ≤ maxCompactionInputBytes :=
    (supplied.bytes filled).trans bounded
  have hashed : handoffSourceSha256 source.id target.id shared (slice.map compactionTurn)
      older.length = .ok sha :=
    (@handoffSourceSha256_eq_ok _ request sha).2 ⟨light, bound, digest⟩
  refine ⟨request, hashed, rfl, ?_, show shared < 2 ^ 64 by omega⟩
  exact {
    version := rfl
    source := sourceId
    target := targetId
    different
    filled := fun none => filled (List.map_eq_nil_iff.1 none)
    few := by
      rw [count]
      exact supplied.count.trans atMost
    turns := by
      refine validateTurns_ok (fun turn among =>
          (sourceAdmitted.turns turn (member among)).identity) (fun turn among => ?_)
        (fun turn among => presented_of_admitted sourceAdmitted.items turn (member among))
        ((slice_sub.map _).nodup sourceAdmitted.wf.turnsNodup) (fun turn _ => List.not_mem_nil)
      have shown : turn ∈ sourceOnly source shared := by
        rw [tiles]
        exact List.mem_append_right _ among
      exact (List.mem_filter.1 shown).2
    counted := by
      rw [count]
      show slice.length + older.length ≤ usizeMax
      simp only [usizeMax]
      omega
    light
    bound
    digest }

omit [Sha256] in
/-- A scan that fails does so at the newest Turn, when no older one in reach is over the
compaction limit. -/
theorem newest_of_failed {shared : Nat} (presented : Presented (sourceOnly source shared))
    (bounded : config.inputBudgetBytes ≤ maxCompactionInputBytes)
    (fit : OlderSourceTurnsFit source config shared) {e : HarnessError}
    (failed : scanBack (handoffScan config).offer (sourceOnly source shared).reverse
      (windowOf []) = .error e) :
    ∃ older newest, sourceOnly source shared = older ++ [newest] ∧
      config.inputBudgetBytes < (compactionTurnsJson [compactionTurn newest]).encodedLen := by
  obtain ⟨older, turn, window, tiles, supplied, space, huge | ⟨rfl, large⟩⟩ :=
    (WindowScan.fails_iff presented bounded).1 ⟨e, failed⟩
  · rcases List.eq_nil_or_concat window with rfl | ⟨front, newest, rfl⟩
    · refine ⟨older, turn, tiles, ?_⟩
      have alone : (compactionTurn turn).toJson.encodedLen ≤
          (compactionTurnsJson [compactionTurn turn]).encodedLen :=
        State.encodedLen_value (by simp)
      omega
    · rw [List.concat_eq_append] at tiles supplied space
      have small := fit older turn front newest tiles supplied space
      omega
  · exact ⟨older, turn, tiles, large⟩

end Prepare

/-- **Main theorem.**  What a handoff between two different stored Threads without a running
Turn hands over. -/
theorem handoff_slice_exact [Sha256] (source target : Thread) (config : ThreadHandoffConfig)
    (sourceAdmitted : ThreadAdmitted source) (targetAdmitted : ThreadAdmitted target)
    (different : source.id ≠ target.id)
    (sourceSettled : ∀ turn ∈ source.turns, turn.status ≠ .running)
    (targetSettled : ∀ turn ∈ target.turns, turn.status ≠ .running)
    (valid : config.validate = .ok ()) :
    ∃ shared, SharedPrefix source.turns target.turns shared ∧
      (ThreadHandoffRequest.prepare source target config = .ok none ↔
        sourceOnly source shared = []) ∧
      (∀ request, ThreadHandoffRequest.prepare source target config = .ok (some request) →
        (∃ older slice, ExactSlice source target config shared request older slice) ∧
        request.validate = .ok () ∧
        (∀ summary, isBlank summary = false →
          (request.wrapped summary).utf8ByteSize ≤ maxTurnContextInputBytes →
          ∃ reference, request.reference = .ok reference ∧ request.toContext summary =
            .ok ⟨"thread-handoff", reference, request.wrapped summary⟩) ∧
        (∀ other : ThreadHandoffRequest, other.sourceSha256 = request.sourceSha256 →
          TellsApart (handoffInputs request ++ handoffInputs other) → other ≠ request →
          other.validate ≠ .ok ())) ∧
      (OlderSourceTurnsFit source config shared →
        ((∃ e, ThreadHandoffRequest.prepare source target config = .error e) ↔
          ∃ older newest, sourceOnly source shared = older ++ [newest] ∧
            config.inputBudgetBytes < (compactionTurnsJson [compactionTurn newest]).encodedLen)) := by
  have shape := handoff_eq sourceAdmitted targetAdmitted different sourceSettled targetSettled valid
  have prefixOf : SharedPrefix source.turns target.turns (sharedPrefix source target) :=
    takeWhile_shared source.turns target.turns
  generalize sharedPrefix source target = shared at shape prefixOf
  obtain ⟨filled, _, bounded⟩ := handoffConfig_bounds valid
  have room : 0 < (handoffScan config).maxInputTurns := filled
  have presented := presented_sourceOnly sourceAdmitted shared
  by_cases nothing : sourceOnly source shared = []
  · rw [if_pos nothing] at shape
    refine ⟨shared, prefixOf, by simp [shape, nothing], fun request prepared => ?_, fun _ => ?_⟩
    · rw [shape] at prepared
      cases prepared
    · simp [shape, nothing]
  · rw [if_neg nothing] at shape
    cases scanned : scanBack (handoffScan config).offer (sourceOnly source shared).reverse
        (windowOf []) with
    | error e =>
      rw [scanned, error_bind] at shape
      refine ⟨shared, prefixOf, by simp [shape, nothing], fun request prepared => ?_,
        fun fit => ?_⟩
      · rw [shape] at prepared
        cases prepared
      · refine iff_of_true ⟨e, shape⟩ ?_
        exact newest_of_failed presented bounded fit scanned
    | ok window =>
      obtain ⟨older, slice, tiles, longest, some_slice, rfl⟩ := WindowScan.found presented
        bounded nothing room scanned
      obtain ⟨request, digest, is_request, requestValid, small⟩ := request_of_slice sourceAdmitted
        targetAdmitted different valid prefixOf.inSource tiles longest.admitted some_slice
      have prepared : ThreadHandoffRequest.prepare source target config = .ok (some request) := by
        have count : (sourceOnly source shared).length - (windowOf slice).turns.length =
            older.length := by
          rw [tiles, windowOf, List.length_append, List.length_map, Nat.add_sub_cancel]
        rw [shape, scanned, ok_bind, count, windowOf, digest, ok_bind, is_request]
      refine ⟨shared, prefixOf, by simp [prepared, nothing], fun other same => ?_, fun _ => ?_⟩
      · rw [prepared] at same
        cases same
        refine ⟨⟨older, slice, ?_⟩, validate_eq_ok.2 requestValid,
          fun summary written fits => toContext_ok requestValid small written fits,
          fun other sameDigest apart changed accepted => changed ?_⟩
        · rw [is_request]
          exact ⟨rfl, rfl, rfl, rfl, tiles, longest, rfl, rfl⟩
        · exact request_bound requestValid (validate_eq_ok.1 accepted) sameDigest apart
      · refine iff_of_false ?_ ?_
        · rintro ⟨e, failed⟩
          rw [prepared] at failed
          cases failed
        · rintro ⟨front, newest, split, large⟩
          obtain ⟨e, failed⟩ := (WindowScan.fails_iff presented bounded).2 ⟨front, newest, [],
            split, ⟨Nat.zero_le _, fun filled => absurd rfl filled⟩, room, .inr ⟨rfl, large⟩⟩
          rw [scanned] at failed
          cases failed

/-! ## Threads that say hello -/

/-- A Thread each of whose Turns says hello. -/
def helloThread (id : ThreadId) (turns : List (TurnId × TurnStatus)) : Thread :=
  ⟨id, none, none, none, none, 1, turns.map fun (turn, status) =>
    ⟨turn, id, status, [⟨turn, 1, .userMessage "hello"⟩], none⟩, []⟩

/-- What was recorded of the Turns, from a sequence on. -/
def helloEvents (id : ThreadId) : Nat → List (TurnId × TurnStatus) → List StoredEvent
  | _, [] => []
  | sequence, (turn, status) :: turns =>
    let finished := if status = .running then [] else [.turnFinished turn status]
    let events := [.turnStarted turn, .itemAppended turn ⟨turn, 1, .userMessage "hello"⟩] ++ finished
    events.zipIdx.map (fun (event, n) => ⟨1, sequence + n, turn, id, 1, event⟩) ++
      helloEvents id (sequence + events.length) turns

def helloJournal (id : ThreadId) (turns : List (TurnId × TurnStatus)) : List StoredEvent :=
  ⟨1, 1, "event-1", id, 1, .threadCreated 1 none⟩ :: helloEvents id 2 turns

/-- The target shares the first Turn, and one of the others is handed over. -/
def sharedTurns : List (TurnId × TurnStatus) :=
  [("turn-1", .failed)]

def sourceTurns : List (TurnId × TurnStatus) :=
  sharedTurns ++ [("turn-2", .failed), ("turn-3", .failed)]

def runningTurns : List (TurnId × TurnStatus) :=
  [("turn-1", .running)]

theorem helloThread_admitted {id : ThreadId} {turns : List (TurnId × TurnStatus)}
    (known : (id, turns) ∈ [("source", runningTurns), ("source", sourceTurns),
      ("target", sharedTurns)]) : @ThreadAdmitted constantSha256 (helloThread id turns) := by
  let _ := constantSha256
  have accepts : (∀ e ∈ helloJournal id turns, e.threadId = id ∧
        (validateStoredEvent e).toOption.isSome = true) ∧
      (helloJournal id turns).length ≤ State.maxStateRecoveryEvents := by
    fin_cases known <;> decide +kernel
  refine ⟨helloJournal id turns, fun e member => ⟨(accepts.1 e member).1, ?_⟩, accepts.2, ?_⟩
  · obtain ⟨charge, charged⟩ := Option.isSome_iff_exists.1 (accepts.1 e member).2
    exact ⟨charge, toOption_eq_some.1 charged⟩
  · fin_cases known <;> exact ⟨_, rfl, rfl⟩

/-- Of the two Turns that the target does not have, the newest is handed over. -/
theorem handoff_slice_exact_hello :
    ∃ shared request older slice,
      SharedPrefix (helloThread "source" sourceTurns).turns
        (helloThread "target" sharedTurns).turns shared ∧
      @ThreadHandoffRequest.prepare constantSha256 (helloThread "source" sourceTurns)
        (helloThread "target" sharedTurns) ⟨1, 65536⟩ = .ok (some request) ∧
      ExactSlice (helloThread "source" sourceTurns) (helloThread "target" sharedTurns)
        ⟨1, 65536⟩ shared request older slice ∧
      older.length = 1 ∧ slice.length = 1 ∧
      @ThreadHandoffRequest.validate constantSha256 request = .ok () := by
  let _ := constantSha256
  obtain ⟨shared, prefixOf, _, exactly, _⟩ := handoff_slice_exact (helloThread "source" sourceTurns)
    (helloThread "target" sharedTurns) ⟨1, 65536⟩ (helloThread_admitted (by decide))
    (helloThread_admitted (by decide)) (by decide) (by decide) (by decide) (by decide)
  have counts : ((ThreadHandoffRequest.prepare (helloThread "source" sourceTurns)
      (helloThread "target" sharedTurns) ⟨1, 65536⟩).toOption.join.map
        fun request => (request.olderSourceTurns, request.turns.length)) = some (1, 1) := by
    decide +kernel
  cases prepared : ThreadHandoffRequest.prepare (helloThread "source" sourceTurns)
      (helloThread "target" sharedTurns) ⟨1, 65536⟩ with
  | error e =>
    rw [prepared] at counts
    cases counts
  | ok result =>
    rw [prepared] at counts
    obtain ⟨request, rfl, both⟩ := Option.map_eq_some_iff.1 counts
    obtain ⟨⟨older, slice, sliced⟩, valid, _⟩ := exactly request prepared
    obtain ⟨left, many⟩ := Prod.mk.inj both
    refine ⟨shared, request, older, slice, prefixOf, rfl, sliced, ?_, ?_, valid⟩
    · rw [← sliced.leftOut, left]
    · rw [← List.length_map, ← sliced.turns, many]

/-- A source with a running Turn is refused, though that Turn is visible, is not in the target
and fits the budget. -/
theorem running_turn_refused :
    @ThreadAdmitted constantSha256 (helloThread "source" runningTurns) ∧
      @ThreadAdmitted constantSha256 (helloThread "target" sharedTurns) ∧
      ThreadHandoffConfig.validate ⟨64, 65536⟩ = .ok () ∧
      SharedPrefix (helloThread "source" runningTurns).turns
        (helloThread "target" sharedTurns).turns 0 ∧
      (∃ turn, sourceOnly (helloThread "source" runningTurns) 0 = [turn] ∧
        (compactionTurnsJson [compactionTurn turn]).encodedLen ≤ 65536) ∧
      @ThreadHandoffRequest.prepare constantSha256 (helloThread "source" runningTurns)
          (helloThread "target" sharedTurns) ⟨64, 65536⟩ =
        .error (.invalidConfiguration "Thread handoff source must have no running Turn") := by
  refine ⟨helloThread_admitted (by decide), helloThread_admitted (by decide), by decide,
    takeWhile_shared _ _, ⟨_, rfl, by decide⟩, rfl⟩

end YHarness.Context

/-
# YHarness.Kernel.Sizes -- encoded sizes, and identities that are still free

How long the encodings of digests, counters, actors and tenants get
(`actor_len`), and that a list of identities always leaves an admissible one
(`exists_fresh_spelling`).  The reserves of the State store and of the other
ledgers are computed from these.
-/
import Mathlib.Data.Fintype.BigOperators
import Mathlib.Data.List.OfFn
import YHarness.Kernel.Bounds
import YHarness.Kernel.Encode

namespace YHarness.Kernel

open YHarness.Lib

set_option autoImplicit false

/-! ## Encoded sizes -/

theorem lowerSha256_len {value : String} (lower : isLowerSha256 value = true) :
    stringLen value = 66 := by
  simp only [isLowerSha256, Bool.and_eq_true, beq_iff_eq, List.all_eq_true, Bool.or_eq_true,
    decide_eq_true_eq] at lower
  obtain ⟨length, digits⟩ := lower
  have single : (utf8Bytes value).map escapedLen = (utf8Bytes value).map fun _ => 1 := by
    refine List.map_congr_left fun b member => ?_
    have digit := digits b member
    unfold escapedLen
    dsimp only
    split <;> [omega; (split <;> omega)]
  unfold stringLen
  rw [single, List.map_const', List.sum_replicate_nat, length]

theorem jsonU64_len (n : UInt64) : (jsonU64 n).encodedLen ≤ 20 :=
  toDigits_length_le n.toNat_lt

theorem jsonU32_len (n : UInt32) : (jsonU32 n).encodedLen ≤ 20 :=
  toDigits_length_le (lt_trans n.toNat_lt (by decide))

theorem nullableU64_len (n : Option UInt64) : (nullable jsonU64 n).encodedLen ≤ 20 := by
  cases n with
  | none => decide
  | some n => exact jsonU64_len n

theorem bool_len (b : Bool) : (Json.bool b).encodedLen ≤ 5 := by
  cases b <;> decide

variable {n : Nat} {actor : ActorIdentity} {c : Char}

theorem actor_len {kind : String} (valid : actor.validateCurrentMessage kind = .ok ()) :
    actor.toJson.encodedLen ≤ 1200 := by
  have keys : ∀ key ∈ ["kind", "local_process", "authenticated", "authority", "subject",
      "unattributed_legacy"], stringLen key ≤ 24 := by decide
  simp only [List.forall_mem_cons] at keys
  cases actor with
  | authenticated authority subject =>
    simp only [ActorIdentity.validateCurrentMessage, ActorIdentity.validateShapeMessage,
      validateActorIdentity, seq_eq_ok, rejectIf_eq_ok, Bool.or_eq_false_iff,
      decide_eq_false_iff_not, Nat.not_lt] at valid
    obtain ⟨⟨⟨⟨_, short⟩, plain⟩, ⟨_, short'⟩, plain'⟩, _⟩ := valid
    have left := stringLen_le_of_noControl plain
    have right := stringLen_le_of_noControl plain'
    simp only [ActorIdentity.toJson, Json.encodedLen, fieldsLen, List.length_cons,
      List.length_nil]
    omega
  | _ =>
    simp only [ActorIdentity.toJson, Json.encodedLen, fieldsLen, List.length_cons,
      List.length_nil]
    omega

/-- The check of an actor does not depend on what it is the actor of. -/
theorem currentMessage_kind {kind other : String}
    (valid : actor.validateCurrentMessage kind = .ok ()) :
    actor.validateCurrentMessage other = .ok () := by
  cases actor with
  | authenticated authority subject =>
    simp only [ActorIdentity.validateCurrentMessage, ActorIdentity.validateShapeMessage,
      validateActorIdentity, seq_eq_ok, rejectIf_eq_ok] at valid ⊢
    exact valid
  | localProcess => rfl
  | unattributedLegacy =>
    simp only [ActorIdentity.validateCurrentMessage, seq_eq_ok, rejectIf_eq_ok] at valid ⊢
    exact valid

theorem tenantChar_printable
    (admitted : (c.isAlphanum || c = '.' || c = '_' || c = '-' || c = ':') = true) :
    isControl c = false := by
  delta Char.isAlphanum Char.isAlpha Char.isUpper Char.isLower at admitted
  simp only [Bool.or_eq_true, decide_eq_true_eq, Char.isDigit, Bool.and_eq_true, ge_iff_le,
    UInt32.le_iff_toNat_le] at admitted
  rcases admitted with (((alnum | rfl) | rfl) | rfl) | rfl
  · simp only [Char.reduceVal, UInt32.reduceToNat] at alnum
    exact not_isControl (by omega) (by omega)
  all_goals decide

theorem tenant_len {tenant : String} (valid : validateTenantId tenant = .ok ()) :
    stringLen tenant ≤ 258 := by
  simp only [validateTenantId, rejectIf_eq_ok, Bool.not_eq_false', boundedText, Bool.and_eq_true,
    decide_eq_true_eq, List.all_eq_true] at valid
  obtain ⟨⟨_, short⟩, admitted⟩ := valid
  have plain : tenant.toList.any isControl = false :=
    List.any_eq_false.2 fun c member => by simp [tenantChar_printable (admitted c member)]
  have length := stringLen_le_of_noControl plain
  omega

theorem nameChar_printable (admitted : isNameChar c = true) :
    isControl c = false := by
  delta isNameChar Char.isLower at admitted
  simp only [Bool.or_eq_true, decide_eq_true_eq, Char.isDigit, Bool.and_eq_true, ge_iff_le,
    UInt32.le_iff_toNat_le] at admitted
  rcases admitted with (((lower | digit) | rfl) | rfl) | rfl
  · simp only [Char.reduceVal, UInt32.reduceToNat] at lower
    exact not_isControl (by omega) (by omega)
  · simp only [Char.reduceVal, UInt32.reduceToNat] at digit
    exact not_isControl (by omega) (by omega)
  all_goals decide

theorem capabilityName_len {kind name : String}
    (valid : validateCapabilityName kind name = .ok ()) : stringLen name ≤ 130 := by
  simp only [validateCapabilityName, rejectIf_eq_ok, Bool.not_eq_false', boundedText,
    Bool.and_eq_true, decide_eq_true_eq, List.all_eq_true] at valid
  obtain ⟨⟨_, short⟩, admitted⟩ := valid
  have plain : name.toList.any isControl = false :=
    List.any_eq_false.2 fun c member => by simp [nameChar_printable (admitted c member)]
  have length := stringLen_le_of_noControl plain
  omega

/-- The check of a capability name does not depend on what it is a name of. -/
theorem capabilityName_kind {kind other name : String}
    (valid : validateCapabilityName kind name = .ok ()) :
    validateCapabilityName other name = .ok () := by
  simp only [validateCapabilityName, rejectIf_eq_ok] at valid ⊢
  exact valid

theorem authority_len {kind : String} {tenantId : Option String}
    (actorValid : actor.validateCurrentMessage kind = .ok ())
    (tenantValid : validateTenant tenantId = .ok ()) :
    (AuthorityContext.mk actor tenantId).toJson.encodedLen ≤ 1600 := by
  have keys : ∀ key ∈ ["actor", "tenant_id"], stringLen key ≤ 16 := by decide
  simp only [List.forall_mem_cons] at keys
  have actorLen := actor_len actorValid
  cases tenantId with
  | none =>
    simp only [AuthorityContext.toJson, skipNone, Json.encodedLen, fieldsLen, List.length_cons,
      List.length_nil]
    omega
  | some tenant =>
    have tenantLen := tenant_len tenantValid
    simp only [AuthorityContext.toJson, skipNone, Json.encodedLen, fieldsLen, List.length_cons,
      List.length_nil]
    omega

/-! ## Free identities -/

/-- An identity spelled with two letters. -/
def spelledId {n : Nat} (bits : Fin n → Bool) : String :=
  String.ofList (List.ofFn fun i => if bits i then 'b' else 'a')

theorem spelledId_injective : Function.Injective (@spelledId n) := by
  intro left right same
  have letters := List.ofFn_injective (String.ofList_injective same)
  funext i
  have letter := congrFun letters i
  cases h : left i <;> cases h' : right i <;> simp_all

theorem spelledId_letters (bits : Fin n → Bool) :
    ∀ c ∈ (spelledId bits).toList, c = 'a' ∨ c = 'b' := by
  intro c member
  rw [spelledId, String.toList_ofList, List.mem_ofFn] at member
  obtain ⟨i, rfl⟩ := member
  cases bits i
  · exact .inl rfl
  · exact .inr rfl

theorem spelledId_size (bits : Fin n → Bool) : (spelledId bits).utf8ByteSize = n := by
  have bytes : ∀ c ∈ (spelledId bits).toList, (String.utf8EncodeChar c).length = 1 := by
    intro c member
    rcases spelledId_letters bits c member with rfl | rfl <;> rfl
  rw [← utf8Bytes_length, utf8Bytes_eq, List.length_flatMap, List.map_congr_left bytes,
    List.map_const', List.sum_replicate_nat, spelledId, String.toList_ofList, List.length_ofFn,
    Nat.mul_one]

theorem spelledId_plain (bits : Fin n → Bool) : hasControl (spelledId bits) = false := by
  rw [hasControl, List.any_eq_false]
  intro c member
  rcases spelledId_letters bits c member with rfl | rfl <;> decide

/-- A spelled identity has a first letter, and no letter is a blank. -/
theorem spelledId_not_blank (bits : Fin n → Bool) (positive : 0 < n) :
    isBlank (spelledId bits) = false := by
  have member : (if bits ⟨0, positive⟩ then 'b' else 'a') ∈ (spelledId bits).toList := by
    rw [spelledId, String.toList_ofList, List.mem_ofFn]
    exact ⟨⟨0, positive⟩, rfl⟩
  rw [isBlank, List.all_eq_false]
  refine ⟨_, member, ?_⟩
  cases bits ⟨0, positive⟩ <;> decide

theorem exists_fresh_spelling {used : List String} (few : used.length < 2 ^ n) :
    ∃ bits : Fin n → Bool, spelledId bits ∉ used := by
  have spare : used.toFinset.card < (Finset.univ.image (@spelledId n)).card := by
    rw [Finset.card_image_of_injective _ spelledId_injective, Finset.card_univ]
    refine lt_of_le_of_lt (List.toFinset_card_le used) ?_
    simpa using few
  obtain ⟨id, spelled, unused⟩ := Finset.exists_mem_notMem_of_card_lt_card spare
  obtain ⟨bits, _, rfl⟩ := Finset.mem_image.1 spelled
  exact ⟨bits, fun member => unused (List.mem_toFinset.2 member)⟩

/-- A text that is bounded and has no control characters. -/
theorem plainText_len {value : String} {blank : Bool} {maximum : Nat} {error : HarnessError}
    (valid : rejectIf (blank || decide (maximum < value.utf8ByteSize) || hasControl value) error =
      .ok ()) : stringLen value ≤ 2 + 2 * maximum := by
  rw [rejectIf_eq_ok, Bool.or_eq_false_iff, Bool.or_eq_false_iff, decide_eq_false_iff_not,
    Nat.not_lt] at valid
  have plain := stringLen_le_of_noControl valid.2
  have short := valid.1.2
  omega

/-! ## Repeated characters -/

/-- A text of one character, many times. -/
def repeated (n : Nat) (c : Char) : String :=
  String.ofList (List.replicate n c)

section Repeated

variable {c : Char} {b : UInt8} (single : String.utf8EncodeChar c = [b]) (n : Nat)

include single in
theorem utf8Bytes_repeated : utf8Bytes (repeated n c) = List.replicate n b := by
  rw [utf8Bytes_eq, repeated, String.toList_ofList]
  induction n with
  | zero => rfl
  | succ n ih => rw [List.replicate_succ, List.flatMap_cons, single, ih, List.singleton_append,
      List.replicate_succ]

include single in
theorem repeated_size : (repeated n c).utf8ByteSize = n := by
  rw [← utf8Bytes_length, utf8Bytes_repeated single, List.length_replicate]

include single in
theorem repeated_len : stringLen (repeated n c) = 2 + n * escapedLen b := by
  rw [stringLen, utf8Bytes_repeated single, List.map_replicate, List.sum_replicate_nat]

end Repeated

theorem repeated_plain (plain : isControl c = false) (n : Nat) :
    hasControl (repeated n c) = false := by
  rw [hasControl, repeated, String.toList_ofList, List.any_eq_false]
  intro d member
  rw [List.eq_of_mem_replicate member, plain]
  decide

theorem repeated_not_blank (visible : isWhitespace c = false) (positive : 0 < n) :
    isBlank (repeated n c) = false := by
  rw [isBlank, repeated, String.toList_ofList, List.all_eq_false]
  exact ⟨c, List.mem_replicate.2 ⟨by omega, rfl⟩, by rw [visible]; decide⟩

end YHarness.Kernel

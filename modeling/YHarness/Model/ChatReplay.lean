/-
# YHarness.Model.ChatReplay -- Tool names there and back

`restore_response` gives the calls of a response and of its continuation their Tools' own
names, and `append_continuation` encodes them again under the mapping of a later request.  A
continuation is one message of calls in a normal form (`decoded_calls`); renaming its calls is
renaming the calls it was made of (`restoreItem_assistantCalls`), and decoding a normal form
gives a call of the same Tool (`decodeToolCall_callJson`), provided that the JSON reader reads
what it has read once.
-/
import YHarness.Model.ChatNames

namespace YHarness.Model.Chat

open YHarness.Lib YHarness.Kernel YHarness.Runtime

set_option autoImplicit false

/-! ## Back to the Tools' own names -/

/-- The value under a key is rewritten. -/
def updateField (key : String) (f : Json → Json) (fields : List (String × Json)) :
    List (String × Json) :=
  fields.map fun entry => if entry.1 = key then (key, f entry.2) else entry

namespace OpenAiToolNames

variable (names : OpenAiToolNames)

def restoreName : Json → Json
  | .str wire => .str (names.internal wire)
  | value => value

def restoreFunction : Json → Json
  | .obj fields => .obj (updateField "name" names.restoreName fields)
  | value => value

def restoreCall : Json → Json
  | .obj fields => .obj (updateField "function" names.restoreFunction fields)
  | value => value

def restoreCalls : Json → Json
  | .arr calls => .arr (calls.map names.restoreCall)
  | value => value

def restoreItem : Json → Json
  | .obj fields => .obj (updateField "tool_calls" names.restoreCalls fields)
  | value => value

def restoreOutput : ModelOutput → ModelOutput
  | .message content => .message content
  | .toolCall callId name input => .toolCall callId (names.internal name) input
  | .toolCalls calls => .toolCalls (calls.map fun call =>
    { call with name := names.internal call.name })

def restoreContinuation : Option ModelContinuation →
    Except HarnessError (Option ModelContinuation)
  | none => .ok none
  | some continuation => do
    let restored : ModelContinuation :=
      ⟨continuation.format, continuation.items.map names.restoreItem⟩
    restored.validate
    .ok (some restored)

/-- `restore_response`. -/
def restoreResponse (response : ModelResponse) : Except HarnessError ModelResponse := do
  let continuation ← names.restoreContinuation response.continuation
  .ok { response with output := names.restoreOutput response.output, continuation := continuation }

end OpenAiToolNames

/-! ## Onto the wire again -/

/-- A round of the loop of `append_continuation`. -/
def replayCall (parse : List UInt8 → Option Json) (names : OpenAiToolNames)
    (replay : List Json × OrdMap String (String × Json)) (call : Json) :
    Except HarnessError (List Json × OrdMap String (String × Json)) := do
  let parsed ← decodeToolCall parse call
  let wire ← names.wire parsed.name
  let normalized ← normalizedToolCall parsed.callId wire parsed.input
  rejectIf (replay.2.contains parsed.callId) (.model "Chat continuation repeated a Tool-call ID")
  .ok (replay.1 ++ [normalized], replay.2.insert parsed.callId (parsed.name, parsed.input))

def validContent : Option Json → Bool
  | none | some .null | some (.str _) => true
  | some _ => false

/-- `append_continuation`. -/
def appendContinuation (parse : List UInt8 → Option Json) (names : OpenAiToolNames)
    (continuation : ModelContinuation) (messages : List Json)
    (represented : OrdMap String (String × Json)) :
    Except HarnessError (List Json × OrdMap String (String × Json)) := do
  rejectIf (continuation.format != continuationFormat || continuation.items.length != 1)
    (.model s!"Chat Completions adapter cannot replay continuation format {continuation.format}")
  let message ← orError (.model "Chat continuation is not an object")
    (continuation.items.head?.bind Json.asObject)
  rejectIf ((field "role" message).bind Json.asStr != some "assistant")
    (.model "Chat continuation is not an assistant message")
  rejectIf (!validContent (field "content" message)) (.model "Chat continuation content is invalid")
  let calls ← orError (.model "Chat continuation has no Tool calls")
    (((field "tool_calls" message).bind Json.asArray).filter fun calls => !calls.isEmpty)
  let replayed ← calls.foldlM (replayCall parse names) ([], represented)
  .ok (messages ++ [assistantCalls ((field "content" message).getD .null) replayed.1], replayed.2)

/-! ## The calls of a response -/

/-- The calls of an output. -/
def callsOf : ModelOutput → List ModelToolCall
  | .message _ => []
  | .toolCall callId name input => [⟨callId, name, input⟩]
  | .toolCalls calls => calls

/-- A call as `decode_tool_call` returns it. -/
structure Decoded (parse : List UInt8 → Option Json) (call : ModelToolCall) : Prop where
  named : call.callId.isEmpty = false
  object : (Json.asObject call.input).isSome = true
  read : ∃ bytes, parse bytes = some call.input

theorem requiredString_eq_ok {fields : List (String × Json)} {name kind value : String} :
    requiredString fields name kind = .ok value ↔
      (field name fields).bind Json.asStr = some value ∧ value.isEmpty = false := by
  rw [requiredString, Model.requiredString, orError_eq_ok, Option.filter_eq_some_iff,
    Bool.not_eq_true']

variable {parse : List UInt8 → Option Json} {calls : List ModelToolCall} {response : ModelResponse}

theorem decodeToolCall_decoded {value : Json} {call : ModelToolCall}
    (done : decodeToolCall parse value = .ok call) : Decoded parse call := by
  obtain ⟨fields, _, done⟩ := bind_eq_ok.1 done
  replace done := rest_ok done
  obtain ⟨function, _, done⟩ := bind_eq_ok.1 done
  obtain ⟨arguments, _, done⟩ := bind_eq_ok.1 done
  obtain ⟨input, read, done⟩ := bind_eq_ok.1 done
  obtain ⟨object, done⟩ := seq_eq_ok.1 done
  obtain ⟨callId, named, done⟩ := bind_eq_ok.1 done
  obtain ⟨name, _, done⟩ := bind_eq_ok.1 done
  cases done
  rw [rejectIf_eq_ok, Option.isNone_eq_false_iff] at object
  rw [orError_eq_ok] at read
  exact ⟨(requiredString_eq_ok.1 named).2, object, _, read⟩

theorem callsToOutput_callsOf {output : ModelOutput} (done : callsToOutput fails calls = .ok output) :
    callsOf output = calls := by
  unfold callsToOutput at done
  split at done
  · cases done
    rfl
  · replace done := rest_ok done
    cases done
    rfl

theorem normalizedToolCalls {normalized : List Json}
    (done : (calls.mapM fun call => normalizedToolCall call.callId call.name call.input) =
      .ok normalized) :
    normalized = calls.map fun call => callJson call.callId call.name call.input := by
  have each := mapM_eq_ok.1 done
  clear done
  induction each with
  | nil => rfl
  | cons head _ ih =>
    replace head := rest_ok head
    cases head
    rw [List.map_cons, ← ih]

theorem distinct_ids {seen : List String} (done : validateModelToolCallsFrom seen calls = .ok ()) :
    (calls.map (·.callId)).Nodup ∧ ∀ call ∈ calls, call.callId ∉ seen := by
  induction calls generalizing seen with
  | nil => exact ⟨List.nodup_nil, nofun⟩
  | cons call calls ih =>
    replace done := rest_ok done
    obtain ⟨fresh, done⟩ := seq_eq_ok.1 done
    obtain ⟨nodup, later⟩ := ih done
    rw [rejectIf_decide] at fresh
    constructor
    · rw [List.map_cons, List.nodup_cons]
      refine ⟨fun member => ?_, nodup⟩
      obtain ⟨other, held, same⟩ := List.mem_map.1 member
      exact later other held (same ▸ List.mem_cons_self)
    · intro other member
      rcases List.mem_cons.1 member with rfl | member
      · exact fresh
      · exact fun held => later other member (List.mem_cons_of_mem _ held)

/-- What an admitted response says of its continuation and its calls. -/
theorem admitted_response (valid : validateModelResponse response = .ok ()) :
    (∀ continuation, response.continuation = some continuation → continuation.validate = .ok ()) ∧
      ((callsOf response.output).map (·.callId)).Nodup := by
  replace valid := rest_ok (rest_ok valid)
  obtain ⟨continuation, valid⟩ := seq_eq_ok.1 valid
  refine ⟨checkSome_eq_ok.1 continuation, ?_⟩
  cases output : response.output with
  | message content => exact List.nodup_nil
  | toolCall callId name input => exact List.nodup_singleton callId
  | toolCalls calls =>
    rw [output] at valid
    replace valid := rest_ok valid
    obtain ⟨each, _⟩ := seq_eq_ok.1 valid
    exact (distinct_ids each).1

/-- What a decoded response says about its calls. -/
structure CallsOf (parse : List UInt8 → Option Json) (content : Json)
    (calls : List ModelToolCall) (response : ModelResponse) : Prop where
  output : callsOf response.output = calls
  decoded : ∀ call ∈ calls, Decoded parse call
  distinct : (calls.map (·.callId)).Nodup
  content_valid : validContent (some content) = true
  continuation : ∀ continuation, response.continuation = some continuation → calls ≠ [] ∧
    continuation = ⟨continuationFormat, [assistantCalls content
      (calls.map fun call => callJson call.callId call.name call.input)]⟩
  admitted : ∀ continuation, response.continuation = some continuation →
    continuation.validate = .ok ()

theorem settleOutput_callsOf {finishReason content : String} {output : ModelOutput}
    {continuation : Option ModelContinuation}
    (done : settleOutput finishReason content calls = .ok (output, continuation)) :
    callsOf output = calls ∧ ∀ held, continuation = some held → calls ≠ [] ∧
      held = ⟨continuationFormat, [assistantCalls (if content.isEmpty then .null else .str content)
        (calls.map fun call => callJson call.callId call.name call.input)]⟩ := by
  replace done := rest_ok done
  split at done
  · rename_i empty
    replace done := rest_ok done
    cases done
    exact ⟨(List.isEmpty_iff.1 empty).symm, nofun⟩
  · rename_i some
    obtain ⟨output', settled, done⟩ := bind_eq_ok.1 done
    obtain ⟨held, made, done⟩ := bind_eq_ok.1 done
    cases done
    obtain ⟨normalized, each, made⟩ := bind_eq_ok.1 made
    replace made := rest_ok made
    cases made
    refine ⟨callsToOutput_callsOf settled, ?_⟩
    rintro _ ⟨⟩
    rw [normalizedToolCalls each]
    exact ⟨fun none => some (List.isEmpty_iff.2 none), rfl⟩

theorem messageCalls_decoded {value : Option Json} (done : messageCalls parse value = .ok calls) :
    ∀ call ∈ calls, Decoded parse call := by
  unfold messageCalls at done
  split at done
  · cases done
    exact nofun
  · intro call member
    obtain ⟨_, _, decoded⟩ := forall₂_exists_left (mapM_eq_ok.1 done) member
    exact decodeToolCall_decoded decoded
  · cases done

/-- **The calls of a response** and the message that continues them. -/
theorem decoded_calls {root : Json} {headerRequestId : Option String} {response : ProviderResponse}
    (done : decodeResponseValue parse root headerRequestId = .ok response) :
    ∃ content calls, CallsOf parse content calls response.response := by
  replace done := rest_ok done
  obtain ⟨object, _, done⟩ := bind_eq_ok.1 done
  obtain ⟨choices, _, done⟩ := bind_eq_ok.1 done
  obtain ⟨choice, _, done⟩ := bind_eq_ok.1 done
  replace done := rest_ok done
  obtain ⟨finishReason, _, done⟩ := bind_eq_ok.1 done
  replace done := rest_ok done
  obtain ⟨message, _, done⟩ := bind_eq_ok.1 done
  replace done := rest_ok (rest_ok done)
  obtain ⟨content, _, done⟩ := bind_eq_ok.1 done
  obtain ⟨calls, decoded, done⟩ := bind_eq_ok.1 done
  obtain ⟨⟨output, continuation⟩, settled, done⟩ := bind_eq_ok.1 done
  obtain ⟨usage, _, done⟩ := bind_eq_ok.1 done
  obtain ⟨providerModel, _, done⟩ := bind_eq_ok.1 done
  obtain ⟨responseId, _, done⟩ := bind_eq_ok.1 done
  obtain ⟨valid, done⟩ := seq_eq_ok.1 done
  rw [← Except.ok.inj done]
  obtain ⟨same, continued⟩ := settleOutput_callsOf settled
  rw [mapError_eq_ok] at valid
  obtain ⟨admitted, distinct⟩ := admitted_response valid
  exact ⟨_, calls, same, messageCalls_decoded decoded, same ▸ distinct, by split <;> rfl, continued,
    admitted⟩

/-! ## Renamed calls -/

/-- A call under the name of its Tool. -/
def OpenAiToolNames.restored (names : OpenAiToolNames) (call : ModelToolCall) : ModelToolCall :=
  { call with name := names.internal call.name }

theorem restoreCall_callJson (names : OpenAiToolNames) (callId name : String) (input : Json) :
    names.restoreCall (callJson callId name input) =
      callJson callId (names.internal name) input := by
  simp [callJson, OpenAiToolNames.restoreCall, OpenAiToolNames.restoreFunction,
    OpenAiToolNames.restoreName, updateField]

theorem restoreItem_assistantCalls (names : OpenAiToolNames) (content : Json) (calls : List Json) :
    names.restoreItem (assistantCalls content calls) =
      assistantCalls content (calls.map names.restoreCall) := by
  simp [assistantCalls, OpenAiToolNames.restoreItem, OpenAiToolNames.restoreCalls, updateField]

theorem callsOf_restoreOutput (names : OpenAiToolNames) (output : ModelOutput) :
    callsOf (names.restoreOutput output) = (callsOf output).map names.restored := by
  cases output <;> rfl

/-- What the reader has read as an object it reads as one again when it is written out. -/
def Rereads (parse : List UInt8 → Option Json) : Prop :=
  ∀ bytes value, parse bytes = some value → (Json.asObject value).isSome = true →
    ∃ value', parse value.encode = some value' ∧ (Json.asObject value').isSome = true

/-- **A call in the normal form** is decoded to a call of the same Tool. -/
theorem decodeToolCall_callJson (rereads : Rereads parse) {call : ModelToolCall}
    (decoded : Decoded parse call) {name : String} (named : name.isEmpty = false) :
    ∃ input, decodeToolCall parse (callJson call.callId name call.input) =
      .ok ⟨call.callId, name, input⟩ ∧ (Json.asObject input).isSome = true := by
  obtain ⟨bytes, read⟩ := decoded.read
  obtain ⟨input, reread, object⟩ := rereads bytes call.input read decoded.object
  have written : call.input.text.isEmpty = false := by
    have size := utf8Bytes_text call.input
    rw [String.isEmpty_eq_false_iff]
    intro empty
    have object := decoded.object
    rw [empty] at size
    cases input : call.input with
    | obj fields =>
      rw [input] at size
      cases fields <;> cases size
    | _ =>
      rw [input] at object
      cases object
  have arguments : requiredString [("arguments", .str call.input.text), ("name", .str name)]
      "arguments" "Tool function" = .ok call.input.text :=
    requiredString_eq_ok.2 ⟨rfl, written⟩
  have callId : requiredString [("function", .obj [("arguments", .str call.input.text),
      ("name", .str name)]), ("id", .str call.callId), ("type", .str "function")] "id" "Tool call" =
        .ok call.callId :=
    requiredString_eq_ok.2 ⟨rfl, decoded.named⟩
  have tool : requiredString [("arguments", .str call.input.text), ("name", .str name)]
      "name" "Tool function" = .ok name :=
    requiredString_eq_ok.2 ⟨rfl, named⟩
  refine ⟨input, bind_eq_ok.2 ⟨_, rfl, seq_eq_ok.2 ⟨rfl, bind_eq_ok.2 ⟨_, rfl, ?_⟩⟩⟩, object⟩
  refine bind_eq_ok.2 ⟨_, arguments, bind_eq_ok.2 ⟨input, ?_, seq_eq_ok.2 ⟨?_, ?_⟩⟩⟩
  · rw [orError_eq_ok, utf8Bytes_text]
    exact reread
  · rw [rejectIf_eq_ok, Option.isNone_eq_false_iff]
    exact object
  · exact bind_eq_ok.2 ⟨_, callId, bind_eq_ok.2 ⟨_, tool, rfl⟩⟩

/-! ## Sizes -/

/-- No larger in any way that is bounded. -/
structure NoLarger (small large : Json) : Prop where
  encodedLen : small.encodedLen ≤ large.encodedLen
  nodes : small.nodes ≤ large.nodes
  depth : small.depth ≤ large.depth

theorem callJson_noLarger {callId name name' : String} (input : Json)
    (shorter : stringLen name' ≤ stringLen name) :
    NoLarger (callJson callId name' input) (callJson callId name input) where
  encodedLen := by
    simp only [callJson, Json.encodedLen, fieldsLen, List.length_cons, List.length_nil]
    omega
  nodes := Nat.le_refl _
  depth := Nat.le_refl _

theorem calls_noLarger {calls calls' : List Json} (each : List.Forall₂ NoLarger calls' calls) :
    calls'.length = calls.length ∧ valuesLen calls' ≤ valuesLen calls ∧
      valuesNodes calls' ≤ valuesNodes calls ∧ valuesDepth calls' ≤ valuesDepth calls := by
  induction each with
  | nil => exact ⟨rfl, Nat.le_refl _, Nat.le_refl _, Nat.le_refl _⟩
  | cons head _ ih =>
    obtain ⟨length, len, nodes, depth⟩ := ih
    have headLen := head.encodedLen
    have headNodes := head.nodes
    have headDepth := head.depth
    simp only [List.length_cons, valuesLen, valuesNodes, valuesDepth]
    omega

theorem assistantCalls_noLarger (content : Json) {calls calls' : List Json}
    (each : List.Forall₂ NoLarger calls' calls) :
    NoLarger (assistantCalls content calls') (assistantCalls content calls) := by
  obtain ⟨length, len, nodes, depth⟩ := calls_noLarger each
  constructor
  · simp only [assistantCalls, Json.encodedLen, fieldsLen, List.length_cons, List.length_nil]
    omega
  · simp only [assistantCalls, Json.nodes, fieldsNodes]
    omega
  · simp only [assistantCalls, Json.depth, fieldsDepth]
    omega

/-- A continuation whose item is replaced by one that is no larger. -/
theorem validate_noLarger {item item' : Json} (smaller : NoLarger item' item)
    (valid : ModelContinuation.validate ⟨continuationFormat, [item]⟩ = .ok ()) :
    ModelContinuation.validate ⟨continuationFormat, [item']⟩ = .ok () := by
  obtain ⟨format, valid⟩ := seq_eq_ok.1 valid
  replace valid := rest_ok valid
  obtain ⟨shape, valid⟩ := seq_eq_ok.1 valid
  obtain ⟨size, bounded, _⟩ := bind_eq_ok.1 valid
  have shape := checkAll_eq_ok.1 shape item (List.mem_singleton_self _)
  rw [mapError_eq_ok, validateValueShape_eq_ok] at shape
  rw [mapError_eq_ok, boundedSerializedSize_eq_ok] at bounded
  have nodes := smaller.nodes
  have depth := smaller.depth
  have len := smaller.encodedLen
  refine seq_eq_ok.2 ⟨format, seq_eq_ok.2 ⟨rfl, seq_eq_ok.2 ⟨?_, bind_eq_ok.2
    ⟨(ModelContinuation.toJson ⟨continuationFormat, [item']⟩).encodedLen, ?_, rfl⟩⟩⟩⟩
  · refine checkAll_eq_ok.2 fun other member => ?_
    rw [List.mem_singleton.1 member, mapError_eq_ok, validateValueShape_eq_ok]
    omega
  · rw [mapError_eq_ok, boundedSerializedSize_eq_ok]
    refine ⟨?_, rfl⟩
    have whole := bounded.1
    simp only [ModelContinuation.toJson, Json.encodedLen, fieldsLen, valuesLen, List.length_cons,
      List.length_nil] at whole ⊢
    omega

/-- Every byte of a text takes at least one byte. -/
theorem le_stringLen (text : String) : 2 + text.utf8ByteSize ≤ stringLen text := by
  have each : ∀ byte ∈ utf8Bytes text, 1 ≤ escapedLen byte := by
    intro byte _
    unfold escapedLen
    dsimp only
    split <;> [omega; (split <;> omega)]
  have total : ((utf8Bytes text).map fun _ => 1).sum ≤ ((utf8Bytes text).map escapedLen).sum :=
    List.sum_le_sum each
  rw [List.map_const', List.sum_replicate_nat, utf8Bytes_length] at total
  unfold stringLen
  omega

/-- A character of a capability name takes one byte, escaped or not. -/
theorem nameChar_bytes {c : Char} (admitted : isNameChar c = true) {byte : UInt8}
    (member : byte ∈ String.utf8EncodeChar c) : escapedLen byte = 1 := by
  have plain : 45 ≤ c.val.toNat ∧ c.val.toNat < 123 ∧ c.val.toNat ≠ 92 := by
    delta isNameChar Char.isLower at admitted
    simp only [Bool.or_eq_true, decide_eq_true_eq, Char.isDigit, Bool.and_eq_true, ge_iff_le,
      UInt32.le_iff_toNat_le] at admitted
    rcases admitted with (((lower | digit) | rfl) | rfl) | rfl
    · simp only [Char.reduceVal, UInt32.reduceToNat] at lower
      omega
    · simp only [Char.reduceVal, UInt32.reduceToNat] at digit
      omega
    all_goals decide
  rw [encode_ascii (by omega), List.mem_singleton] at member
  have value : byte.toNat = c.val.toNat := by
    rw [member, UInt8.toNat_ofNat_of_lt' (by simp only [UInt8.size]; omega)]
  unfold escapedLen
  dsimp only
  rw [value, if_neg (by omega), if_neg (by omega)]

/-- A name that can be put back: not empty, and no longer in JSON than an alias. -/
structure Restorable (name : String) : Prop where
  nonempty : name.isEmpty = false
  short : stringLen name ≤ 2 + maxOpenAiToolNameBytes

/-- **What the registry admits** can be put back. -/
theorem restorable_of_registered {name : String} (registered : boundedText isNameChar 64 name = true) :
    Restorable name := by
  rw [boundedText, Bool.and_eq_true, Bool.and_eq_true, Bool.not_eq_true', decide_eq_true_eq,
    List.all_eq_true] at registered
  obtain ⟨⟨nonempty, size⟩, chars⟩ := registered
  have each : (utf8Bytes name).map escapedLen = (utf8Bytes name).map fun _ => 1 := by
    refine List.map_congr_left fun byte member => ?_
    rw [utf8Bytes_eq, List.mem_flatMap] at member
    obtain ⟨c, held, member⟩ := member
    exact nameChar_bytes (chars c held) member
  refine ⟨nonempty, ?_⟩
  rw [stringLen, each, List.map_const', List.sum_replicate_nat, utf8Bytes_length, Nat.mul_one]
  exact Nat.add_le_add_left size 2

/-- A projection only lengthens a name. -/
theorem stringLen_readableName (name : String) : stringLen name ≤ stringLen (readableName name) := by
  rw [stringLen, stringLen, readableName, charBytes_ofList, utf8Bytes_eq]
  refine Nat.add_le_add_left ?_ 2
  induction name.toList with
  | nil => exact Nat.le_refl _
  | cons c cs ih =>
    rw [List.flatMap_cons, List.flatMap_cons, charBytes_append, List.map_append, List.map_append,
      List.sum_append, List.sum_append]
    have head : ((String.utf8EncodeChar c).map escapedLen).sum ≤
        ((charBytes (if c = '.' then ['_', '_'] else [c])).map escapedLen).sum := by
      split
      · rename_i dot
        rw [dot]
        decide
      · rw [charBytes, List.flatMap_singleton]
    exact Nat.add_le_add head ih

/-- **A restored name is no longer** than what was on the wire. -/
theorem internal_stringLen {done : List String} {names : OpenAiToolNames}
    (projects : Projects done names) (restorable : ∀ name ∈ done, Restorable name)
    (wire : String) : stringLen (names.internal wire) ≤ stringLen wire := by
  unfold OpenAiToolNames.internal
  cases found : names.wireToInternal[wire]? with
  | none => exact Nat.le_refl _
  | some name =>
    have mapped := (projects.inverse name wire).2 found
    have short := (restorable name ((projects.mapped name).1 (by rw [mapped]; rfl))).short
    have long := le_stringLen wire
    rw [Option.getD_some]
    rcases projects.shape name wire mapped with same | readable | alias'
    · rw [same]
    · rw [readable]
      exact stringLen_readableName name
    · omega

/-! ## There and back -/

/-- The continuation of these calls. -/
def continued (content : Json) (calls : List ModelToolCall) : ModelContinuation :=
  ⟨continuationFormat, [assistantCalls content
    (calls.map fun call => callJson call.callId call.name call.input)]⟩

/-- **A response is restored**, its calls one for one under the names of their Tools. -/
theorem restoreResponse_ok {done : List String} {names : OpenAiToolNames}
    (projects : Projects done names) (restorable : ∀ name ∈ done, Restorable name) {content : Json}
    (made : CallsOf parse content calls response) :
    ∃ restored, names.restoreResponse response = .ok restored ∧
      callsOf restored.output = calls.map names.restored ∧
      restored.continuation = response.continuation.map fun _ =>
        continued content (calls.map names.restored) := by
  have output : callsOf (names.restoreOutput response.output) = calls.map names.restored := by
    rw [callsOf_restoreOutput, made.output]
  cases held : response.continuation with
  | none =>
    refine ⟨{ response with output := names.restoreOutput response.output, continuation := none },
      ?_, output, rfl⟩
    rw [OpenAiToolNames.restoreResponse, held]
    rfl
  | some continuation =>
    obtain ⟨_, same⟩ := made.continuation continuation held
    have renamed : continuation.items.map names.restoreItem =
        (continued content (calls.map names.restored)).items := by
      rw [same, continued, List.map_singleton, restoreItem_assistantCalls, List.map_map,
        List.map_map]
      refine congrArg (fun calls => [assistantCalls content calls]) (List.map_congr_left ?_)
      exact fun call _ => restoreCall_callJson names call.callId call.name call.input
    have smaller : List.Forall₂ NoLarger
        ((calls.map names.restored).map fun call => callJson call.callId call.name call.input)
        (calls.map fun call => callJson call.callId call.name call.input) := by
      rw [List.map_map, List.forall₂_map_left_iff, List.forall₂_map_right_iff,
        List.forall₂_same]
      exact fun call _ => callJson_noLarger call.input (internal_stringLen projects restorable _)
    have valid := made.admitted continuation held
    rw [same] at valid
    have valid' := validate_noLarger (assistantCalls_noLarger content smaller) valid
    refine ⟨{ response with
      output := names.restoreOutput response.output
      continuation := some (continued content (calls.map names.restored)) }, ?_, output, rfl⟩
    rw [OpenAiToolNames.restoreResponse, held, OpenAiToolNames.restoreContinuation,
      renamed, same]
    exact bind_eq_ok.2 ⟨_, seq_eq_ok.2 ⟨valid', rfl⟩, rfl⟩

end YHarness.Model.Chat

/-
# YHarness.Model.ChatStream -- the Chat Completions stream

`ChatSseDecoder` of `src/model/openai_chat_completions.rs`.  The chunks of a stream build a
message, the calls of it under their index; `finish` makes a whole response of it and reads
that as if it had come at once.  A decoder that failed is dropped, so of a chunk that fails
only the deltas are kept that it emitted before.
-/
import YHarness.Lib.OrdMap
import YHarness.Model.Chat

namespace YHarness.Model

open YHarness.Lib YHarness.Kernel YHarness.Runtime
open YHarness.State (maxToolCallsPerBatch)

set_option autoImplicit false

namespace Chat

structure StreamingToolCall where
  id : Option String
  name : Option String
  arguments : String
  sawFunctionType : Bool

/-- What the chunks of a stream have built. -/
structure Message where
  responseId : Option String
  model : Option String
  content : String
  refusal : String
  calls : OrdMap Nat StreamingToolCall
  finishReason : Option String
  usage : Option Json
  /-- The text deltas handed to the stream. -/
  emitted : List String

def Message.new : Message :=
  ⟨none, none, "", "", ∅, none, none, []⟩

/-! ## A chunk -/

/-- `merge_optional_identity`. -/
def mergeOptionalIdentity (target : Option String) (fields : List (String × Json))
    (name kind : String) : Except HarnessError (Option String) :=
  match field name fields with
  | none | some .null => .ok target
  | some value => do
    let value ← orError (fails s!"stream {kind} is invalid")
      ((Json.asStr value).filter isIdentity)
    rejectIf (target.any (· != value)) (fails s!"stream {kind} changed")
    .ok (some value)

/-- `merge_delta_identity`. -/
def mergeDeltaIdentity (target : Option String) (fields : List (String × Json))
    (name kind : String) : Except HarnessError (Option String) :=
  match field name fields with
  | none | some .null => .ok target
  | some value => do
    let value ← orError (fails s!"stream {kind} is invalid")
      ((Json.asStr value).filter isIdentity)
    rejectIf target.isSome (fails s!"stream {kind} was repeated")
    .ok (some value)

/-- A text that may be absent. -/
def optionalText (what : String) : Option Json → Except HarnessError String
  | none | some .null => .ok ""
  | some value => orError (fails what) (Json.asStr value)

def mergeUsage (usage : Option Json) : Option Json → Except HarnessError (Option Json)
  | none | some .null => .ok usage
  | some reported => do
    let _ ← decodeUsage (some reported)
    rejectIf usage.isSome (fails "stream repeated usage")
    .ok (some reported)

def mergeFinishReason (finishReason : Option String) :
    Option Json → Except HarnessError (Option String)
  | none | some .null => .ok finishReason
  | some reason => do
    let reason ← orError (fails "stream finish reason is invalid")
      ((Json.asStr reason).filter fun value => !value.isEmpty)
    rejectIf finishReason.isSome (fails "stream repeated finish reason")
    .ok (some reason)

def mergeFunctionType (sawFunctionType : Bool) : Option Json → Except HarnessError Bool
  | none | some .null => .ok sawFunctionType
  | some kind => do
    rejectIf (Json.asStr kind != some "function" || sawFunctionType)
      (fails "stream Tool type is invalid or repeated")
    .ok true

/-- The `function` of a Tool delta. -/
def mergeFunction (call : StreamingToolCall) : Option Json → Except HarnessError StreamingToolCall
  | none => .ok call
  | some function => do
    let function ← orError (fails "stream Tool function is invalid") (Json.asObject function)
    let name ← mergeDeltaIdentity call.name function "name" "Tool name"
    let arguments ← optionalText "stream Tool arguments are invalid" (field "arguments" function)
    .ok { call with name := name, arguments := call.arguments ++ arguments }

/-- `consume_tool_delta`. -/
def consumeToolDelta (calls : OrdMap Nat StreamingToolCall) (value : Json) :
    Except HarnessError (OrdMap Nat StreamingToolCall) := do
  let delta ← orError (fails "stream Tool delta must be an object") (Json.asObject value)
  let index ← orError (fails "stream Tool index is invalid")
    ((((field "index" delta).bind Json.asU64).map UInt64.toNat).filter
      fun index => decide (index < maxToolCallsPerBatch))
  let call := (calls[index]?).getD ⟨none, none, "", false⟩
  let sawFunctionType ← mergeFunctionType call.sawFunctionType (field "type" delta)
  let id ← mergeDeltaIdentity call.id delta "id" "Tool-call ID"
  let call ← mergeFunction { call with sawFunctionType := sawFunctionType, id := id }
    (field "function" delta)
  .ok (calls.insert index call)

def consumeToolDeltas (calls : OrdMap Nat StreamingToolCall) :
    Option Json → Except HarnessError (OrdMap Nat StreamingToolCall)
  | none => .ok calls
  | some value => do
    let deltas ← orError (fails "stream tool_calls must be an array") (Json.asArray value)
    deltas.foldlM consumeToolDelta calls

/-- A chunk up to the delta of its choice. -/
def consumeIdentity (root : Json) (m : Message) : Except HarnessError (Message × List Json) := do
  let object ← orError (fails "stream chunk must be an object") (Json.asObject root)
  let responseId ← mergeOptionalIdentity m.responseId object "id" "response ID"
  let model ← mergeOptionalIdentity m.model object "model" "model identity"
  let usage ← mergeUsage m.usage (field "usage" object)
  let choices ← orError (fails "stream chunk has no choices")
    ((field "choices" object).bind Json.asArray)
  .ok ({ m with responseId := responseId, model := model, usage := usage }, choices)

/-- The choice of a chunk, up to the content of its delta. -/
def consumeChoice (choice : Json) (m : Message) :
    Except HarnessError (Message × List (String × Json) × String) := do
  let choice ← orError (fails "stream choice must be an object") (Json.asObject choice)
  rejectIf ((field "index" choice).bind Json.asU64 != some 0)
    (fails "stream choice index is not zero")
  let finishReason ← mergeFinishReason m.finishReason (field "finish_reason" choice)
  let delta ← orError (fails "stream choice has no delta") ((field "delta" choice).bind Json.asObject)
  rejectIf (((field "role" delta).bind Json.asStr).any (· != "assistant"))
    (fails "stream delta is not from the assistant role")
  let content ← optionalText "stream content is invalid" (field "content" delta)
  .ok ({ m with finishReason := finishReason }, delta, content)

/-- The delta of a choice, after its content. -/
def consumeRest (delta : List (String × Json)) (m : Message) : Except HarnessError Message := do
  let refusal ← optionalText "stream refusal is invalid" (field "refusal" delta)
  let calls ← consumeToolDeltas m.calls (field "tool_calls" delta)
  .ok { m with refusal := m.refusal ++ refusal, calls := calls }

/-- `consume_chunk`. -/
def consumeChunk (root : Json) (m : Message) : Except HarnessError Unit × Message :=
  match consumeIdentity root m with
  | .error e => (.error e, m)
  | .ok (m, []) => (.ok (), m)
  | .ok (m, [choice]) =>
    match consumeChoice choice m with
    | .error e => (.error e, m)
    | .ok (m, delta, content) =>
      let m := { m with content := m.content ++ content
                        emitted := m.emitted ++ boundedDeltas content }
      match consumeRest delta m with
      | .error e => (.error e, m)
      | .ok m => (.ok (), m)
  | .ok (m, _ :: _ :: _) => (.error (fails "stream chunk must contain at most one choice"), m)

/-! ## The end -/

/-- The calls of a stream in the normal form. -/
def settleCalls (parse : List UInt8 → Option Json) :
    Nat → List (Nat × StreamingToolCall) → Except HarnessError (List Json)
  | _, [] => .ok []
  | expected, (index, call) :: rest => do
    rejectIf (index != expected) (fails "stream Tool indexes are not contiguous")
    let id ← orError (fails "stream Tool call has no ID") call.id
    let name ← orError (fails "stream Tool call has no name") call.name
    let input ← orError (fails "stream Tool arguments are not JSON")
      (parse (utf8Bytes call.arguments))
    let call ← normalizedToolCall id name input
    let calls ← settleCalls parse (expected + 1) rest
    .ok (call :: calls)

/-- `Value::Null` for an empty text. -/
def nullOfEmpty (text : String) : Json :=
  if text.isEmpty then .null else .str text

/-- The response that a stream spells. -/
def wholeResponse (m : Message) (finishReason : String) (calls : List Json) : Json :=
  .obj ([("choices", .arr [.obj [("finish_reason", .str finishReason), ("index", .nat 0),
      ("message", .obj [("content", nullOfEmpty m.content), ("refusal", nullOfEmpty m.refusal),
        ("role", .str "assistant"), ("tool_calls", .arr calls)])]])] ++
    skipNone "id" .str m.responseId ++ skipNone "model" .str m.model ++
    skipNone "usage" id m.usage)

/-- `finish`, after the last event. -/
def settle (parse : List UInt8 → Option Json) (headerRequestId : Option String)
    (frame : SseFrame) (m : Message) : Except HarnessError ProviderResponse := do
  rejectIf (!frame.done) (fails "stream ended without [DONE]")
  let finishReason ← orError (fails "stream has no finish reason") m.finishReason
  let calls ← settleCalls parse 0 m.calls.toList
  decodeResponseValue parse (wholeResponse m finishReason calls) headerRequestId

/-! ## The decoder -/

/-- `finish_event`, up to the event. -/
def finishEvent (parse : List UInt8 → Option Json) (frame : SseFrame) :
    Except StreamFailure (SseFrame × Option Json) :=
  if frame.eventData = [] then .ok (frame, none)
  else do
    let frame ← frame.count (.failed (fails "stream emitted too many events"))
    let data := frame.eventData
    let frame := { frame with eventData := [] }
    if data = utf8Bytes "[DONE]" then .ok ({ frame with done := true }, none)
    else
      let root ← readEvent provider parse data
      checkEventShape provider root
      .ok (frame, some root)

/-- `consume_line`. -/
def consumeLine (parse : List UInt8 → Option Json) (maximum : Nat) : Framer Json :=
  fun line frame =>
    if line = [] then finishEvent parse frame
    else match fieldValue "data:" line with
      | some data => do
        rejectIf frame.done (.failed (fails "stream continued after [DONE]"))
        let frame ← frame.appendData provider maximum data
        .ok (frame, none)
      | none => .ok (frame, none)

end Chat

/-- `ChatSseDecoder`. -/
def chatSseDecoder (parse : List UInt8 → Option Json) (maximum : Nat) (requestId : Option String) :
    SseDecoder Json Chat.Message ProviderResponse where
  maximum := maximum
  exceeded := .failed (Chat.fails "stream exceeded its configured limit")
  framer := Chat.consumeLine parse maximum
  step root m := ((Chat.consumeChunk root m).1.mapError .failed, (Chat.consumeChunk root m).2)
  lastLine := stripReturn
  settle frame m := ((Chat.settle parse requestId frame m).mapError .failed, m)

end YHarness.Model

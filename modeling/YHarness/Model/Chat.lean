/-
# YHarness.Model.Chat -- the Chat Completions adapter: responses and continuations

`decode_response_value` of `src/model/openai_chat_completions.rs`, and the message that
replays a Tool step.  The continuation of a response is its own message in a normal form; a
call in it is decoded again when it is replayed.

The JSON reader is a parameter.
-/
import YHarness.Model.Sse
import YHarness.Model.Values

namespace YHarness.Model.Chat

open YHarness.Lib YHarness.Kernel YHarness.Runtime

set_option autoImplicit false

def provider : String := "OpenAI Chat Completions"

def continuationFormat : String := "openai.chat.message.v1"

abbrev fails (message : String) : HarnessError :=
  protocolFailure provider message

def requiredString : List (String × Json) → String → String → Except HarnessError String :=
  Model.requiredString fails

/-- The texts that identify a response. -/
def isIdentity (value : String) : Bool :=
  !value.isEmpty && decide (value.utf8ByteSize ≤ 256) && !hasControl value

def optionalString (fields : List (String × Json)) (name kind : String) :
    Except HarnessError (Option String) :=
  match field name fields with
  | none | some .null => .ok none
  | some (.str value) => do
    rejectIf (!isIdentity value) (fails s!"{kind} has an invalid {name}")
    .ok (some value)
  | some _ => .error (fails s!"{kind} has an invalid {name}")

/-! ## Usage -/

def nestedOptionalUnsigned (fields : List (String × Json)) (parent name : String) :
    Except HarnessError UInt64 :=
  match field parent fields with
  | none => .ok 0
  | some parent => do
    let parent ← orError (fails "usage detail must be an object") (Json.asObject parent)
    match field name parent with
    | none => .ok 0
    | some value => orError (fails s!"usage detail {name} is invalid") (Json.asU64 value)

def decodeUsage : Option Json → Except HarnessError (Option ModelUsage)
  | none | some .null => .ok none
  | some value => do
    let usage ← orError (fails "usage must be an object") (Json.asObject value)
    let inputTokens ← requiredUnsigned fails "usage" usage "prompt_tokens"
    let outputTokens ← requiredUnsigned fails "usage" usage "completion_tokens"
    let cached ← nestedOptionalUnsigned usage "prompt_tokens_details" "cached_tokens"
    let reasoning ← nestedOptionalUnsigned usage "completion_tokens_details" "reasoning_tokens"
    .ok (some ⟨inputTokens, outputTokens, cached, reasoning⟩)

/-! ## Tool calls -/

/-- A call on the wire. -/
def callJson (callId name : String) (input : Json) : Json :=
  .obj [("function", .obj [("arguments", .str input.text), ("name", .str name)]),
    ("id", .str callId), ("type", .str "function")]

/-- `normalized_tool_call`. -/
def normalizedToolCall (callId name : String) (input : Json) : Except HarnessError Json := do
  rejectIf (Json.asObject input).isNone
    (.model "Chat Completions Tool arguments must be a JSON object")
  .ok (callJson callId name input)

/-- `decode_tool_call`. -/
def decodeToolCall (parse : List UInt8 → Option Json) (value : Json) :
    Except HarnessError ModelToolCall := do
  let call ← orError (fails "Tool call must be an object") (Json.asObject value)
  rejectIf ((field "type" call).bind Json.asStr != some "function")
    (fails "Tool call is not a function")
  let function ← orError (fails "Tool call has no function")
    ((field "function" call).bind Json.asObject)
  let arguments ← requiredString function "arguments" "Tool function"
  let input ← orError (fails "Tool arguments are not valid JSON") (parse (utf8Bytes arguments))
  rejectIf (Json.asObject input).isNone (fails "Tool arguments must be a JSON object")
  let callId ← requiredString call "id" "Tool call"
  let name ← requiredString function "name" "Tool function"
  .ok ⟨callId, name, input⟩

/-! ## A response -/

/-- The finish reasons a response may have. -/
def checkFinish (reason : String) : Except HarnessError Unit :=
  match reason with
  | "stop" | "tool_calls" => .ok ()
  | "length" => .error (providerFailure .requestRejected
      "Chat Completions response reached its token limit")
  | "content_filter" => .error (providerFailure .contentPolicy
      "Chat Completions response was filtered")
  | _ => .error (fails "choice used an unsupported finish reason")

def messageContent : Option Json → Except HarnessError String
  | none | some .null => .ok ""
  | some (.str content) => .ok content
  | some _ => .error (fails "assistant content must be a string or null")

def messageCalls (parse : List UInt8 → Option Json) :
    Option Json → Except HarnessError (List ModelToolCall)
  | none => .ok []
  | some (.arr calls) => calls.mapM (decodeToolCall parse)
  | some _ => .error (fails "assistant tool_calls must be an array")

def onlyChoice : List Json → Except HarnessError (List (String × Json))
  | [choice] => orError (fails "choice must be an object") (Json.asObject choice)
  | _ => .error (fails "response must contain exactly one choice")

/-- An assistant message with calls. -/
def assistantCalls (content : Json) (calls : List Json) : Json :=
  .obj [("content", content), ("role", .str "assistant"), ("tool_calls", .arr calls)]

/-- The message that continues these calls. -/
def continuationOf (content : String) (calls : List ModelToolCall) :
    Except HarnessError ModelContinuation := do
  let normalized ← calls.mapM fun call => normalizedToolCall call.callId call.name call.input
  let continuation : ModelContinuation := ⟨continuationFormat,
    [assistantCalls (if content.isEmpty then .null else .str content) normalized]⟩
  continuation.validate.mapError fun _ => fails "returned invalid continuation"
  .ok continuation

/-- What the calls and the text of a message settle to. -/
def settleOutput (finishReason content : String) (calls : List ModelToolCall) :
    Except HarnessError (ModelOutput × Option ModelContinuation) := do
  rejectIf (!calls.isEmpty != (finishReason == "tool_calls"))
    (fails "Tool calls and finish reason disagree")
  if calls.isEmpty then
    rejectIf (isBlank content) (fails "response did not settle as assistant text")
    .ok (.message content, none)
  else
    let output ← callsToOutput fails calls
    let continuation ← continuationOf content calls
    .ok (output, some continuation)

def decodeResponseValue (parse : List UInt8 → Option Json) (root : Json)
    (headerRequestId : Option String) : Except HarnessError ProviderResponse := do
  (validateValueShape root).mapError fun _ => fails "response JSON is too complex"
  let object ← orError (fails "response must be an object") (Json.asObject root)
  let choices ← orError (fails "response has no choices") ((field "choices" object).bind Json.asArray)
  let choice ← onlyChoice choices
  rejectIf ((field "index" choice).bind Json.asU64 != some 0) (fails "choice index is not zero")
  let finishReason ← requiredString choice "finish_reason" "choice"
  checkFinish finishReason
  let message ← orError (fails "choice has no message") ((field "message" choice).bind Json.asObject)
  rejectIf ((field "role" message).bind Json.asStr != some "assistant")
    (fails "choice message is not from the assistant role")
  rejectIf (((field "refusal" message).bind Json.asStr).any fun refusal => !refusal.isEmpty)
    (providerFailure .contentPolicy "Chat Completions model refused the request")
  let content ← messageContent (field "content" message)
  let calls ← messageCalls parse (field "tool_calls" message)
  let (output, continuation) ← settleOutput finishReason content calls
  let usage ← decodeUsage (field "usage" object)
  let providerModel ← optionalString object "model" "response"
  let responseId ← optionalString object "id" "response"
  let response : ModelResponse := ⟨output, providerModel, headerRequestId.or responseId, continuation⟩
  (validateModelResponse response).mapError fun error => fails error.display
  .ok ⟨response, usage⟩

end YHarness.Model.Chat

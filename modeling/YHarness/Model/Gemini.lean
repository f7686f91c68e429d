/-
# YHarness.Model.Gemini -- the Gemini adapter: responses and streams

`decode_response_value` and `GeminiSseDecoder` of `src/model/gemini_generate_content.rs`.
The parts of a stream are collected, and `finish` reads them as one response.  A call
without an id gets one that is a digest of its part and place; the hash function, SHA-256,
is a parameter like the JSON reader.
-/
import YHarness.Model.Sse
import YHarness.Model.Values

namespace YHarness.Model

open YHarness.Lib YHarness.Kernel YHarness.Runtime
open YHarness.State (maxToolCallsPerBatch)

set_option autoImplicit false

namespace Gemini

def continuationFormat : String := "google.gemini.parts.v1"

abbrev fails (message : String) : HarnessError :=
  protocolFailure "Gemini" message

def requiredString : List (String × Json) → String → String → Except HarnessError String :=
  Model.requiredString fails

/-! ## A response -/

/-- `usize::to_le_bytes`. -/
def leBytes (n : Nat) : List UInt8 :=
  (List.range 8).map fun i => UInt8.ofNat (n / 256 ^ i)

/-- `generated_call_id`. -/
def generatedCallId (hash : List UInt8 → Vector UInt8 32) (responseId : Option String) (index : Nat)
    (part : Json) : String :=
  "gemini-" ++ String.ofList (hexChars ((hash (utf8Bytes "y-harness/gemini/function-call/v1\x00" ++
    utf8Bytes (responseId.getD "") ++ leBytes index ++ part.encode)).toList.take 12))

def functionArguments (call : List (String × Json)) : Except HarnessError Json :=
  match field "args" call with
  | none => .ok (.obj [])
  | some (.obj arguments) => .ok (.obj arguments)
  | some _ => .error (fails "function-call args must be an object")

/-- What the parts of a candidate are split into. -/
structure Parts where
  text : String
  calls : List ModelToolCall
  continuation : List Json

/-- One round of the loop of `decode_response_value`. -/
def readPart (hash : List UInt8 → Vector UInt8 32) (responseId : Option String) (index : Nat)
    (part : Json) (read : Parts) : Except HarnessError Parts := do
  let fields ← orError (fails "candidate part must be an object") (Json.asObject part)
  match field "text" fields, field "functionCall" fields with
  | some _, some _ => .error (fails "candidate part mixes text and functionCall")
  | some value, none => do
    let value ← orError (fails "candidate text part is invalid") (Json.asStr value)
    .ok { read with text := read.text ++ value
                    continuation := read.continuation ++ [.obj [("part", part)]] }
  | none, some call => do
    let call ← orError (fails "candidate functionCall is invalid") (Json.asObject call)
    let name ← requiredString call "name" "function call"
    let input ← functionArguments call
    let callId := (((field "id" call).bind Json.asStr).filter fun value => !value.isEmpty).getD
      (generatedCallId hash responseId index part)
    .ok { read with calls := read.calls ++ [⟨callId, name, input⟩]
                    continuation := read.continuation ++
                      [.obj [("call_id", .str callId), ("part", part)]] }
  | none, none => .ok { read with continuation := read.continuation ++ [.obj [("part", part)]] }

def readParts (hash : List UInt8 → Vector UInt8 32) (responseId : Option String) :
    Nat → List Json → Parts → Except HarnessError Parts
  | _, [], read => .ok read
  | index, part :: parts, read => do
    let read ← readPart hash responseId index part read
    readParts hash responseId (index + 1) parts read

/-- The finish reasons a candidate may have. -/
def checkFinish (reason : String) : Except HarnessError Unit :=
  match reason with
  | "STOP" => .ok ()
  | "MAX_TOKENS" => .error (providerFailure .requestRejected "Gemini response reached MAX_TOKENS")
  | "SAFETY" | "RECITATION" | "BLOCKLIST" | "PROHIBITED_CONTENT" | "SPII" | "IMAGE_SAFETY" =>
    .error (providerFailure .contentPolicy "Gemini stopped for a content-policy reason")
  | "MALFORMED_FUNCTION_CALL" =>
    .error (providerFailure .requestRejected "Gemini returned a malformed function call")
  | _ => .error (fails "candidate used an unsupported finish reason")

/-- The one candidate there has to be. -/
def onlyOf (several other : String) : List Json → Except HarnessError (List (String × Json))
  | [candidate] => orError (fails other) (Json.asObject candidate)
  | _ => .error (fails several)

/-- What the parts settle to. -/
def settleOutput (read : Parts) :
    Except HarnessError (ModelOutput × Option ModelContinuation) :=
  if read.calls.isEmpty then do
    rejectIf (isBlank read.text) (fails "response did not settle as assistant text")
    .ok (.message read.text, none)
  else do
    let output ← callsToOutput fails read.calls
    let continuation : ModelContinuation := ⟨continuationFormat, read.continuation⟩
    continuation.validate.mapError fun _ => fails "returned invalid continuation"
    .ok (output, some continuation)

def decodeUsage : Option Json → Except HarnessError (Option ModelUsage)
  | none => .ok none
  | some value => do
    let usage ← orError (fails "usageMetadata must be an object") (Json.asObject value)
    let inputTokens ← requiredUnsigned fails "usageMetadata" usage "promptTokenCount"
    let outputTokens ← requiredUnsigned fails "usageMetadata" usage "candidatesTokenCount"
    let cached ← optionalUnsigned fails "usageMetadata" usage "cachedContentTokenCount"
    let reasoning ← optionalUnsigned fails "usageMetadata" usage "thoughtsTokenCount"
    .ok (some ⟨inputTokens, outputTokens, cached, reasoning⟩)

def decodeResponseValue (hash : List UInt8 → Vector UInt8 32) (root : Json)
    (headerRequestId : Option String) : Except HarnessError ProviderResponse := do
  (validateValueShape root).mapError fun _ => fails "response JSON is too complex"
  let object ← orError (fails "response must be an object") (Json.asObject root)
  rejectIf ((((field "promptFeedback" object).bind Json.asObject).bind
      (field "blockReason")).bind Json.asStr).isSome
    (providerFailure .contentPolicy "Gemini blocked the request")
  let candidates ← orError (fails "response has no candidates")
    ((field "candidates" object).bind Json.asArray)
  let candidate ← onlyOf "response must contain exactly one candidate"
    "candidate must be an object" candidates
  rejectIf (((field "index" candidate).bind Json.asU64).getD 0 != 0)
    (fails "response candidate index is not zero")
  let finishReason ← orError (fails "candidate has no finish reason")
    ((field "finishReason" candidate).bind Json.asStr)
  checkFinish finishReason
  let content ← orError (fails "candidate has no content")
    ((field "content" candidate).bind Json.asObject)
  rejectIf ((field "role" content).bind Json.asStr != some "model")
    (fails "candidate content is not from the model role")
  let parts ← orError (fails "candidate content has no parts")
    ((field "parts" content).bind Json.asArray)
  let responseId := (field "responseId" object).bind Json.asStr
  let read ← readParts hash responseId 0 parts ⟨"", [], []⟩
  let (output, continuation) ← settleOutput read
  let usage ← decodeUsage (field "usageMetadata" object)
  let response : ModelResponse := ⟨output, (field "modelVersion" object).bind Json.asStr,
    headerRequestId.or responseId, continuation⟩
  (validateModelResponse response).mapError fun error => fails error.display
  .ok ⟨response, usage⟩

/-! ## A stream -/

/-- What the chunks of a stream have built. -/
structure Message where
  parts : List Json
  finishReason : Option String
  usage : Option Json
  promptFeedback : Option Json
  responseId : Option String
  modelVersion : Option String
  /-- The text deltas handed to the stream. -/
  emitted : List String

def Message.new : Message :=
  ⟨[], none, none, none, none, none, []⟩

/-- `merge_stable_string`. -/
def mergeStableString (target : Option String) (label : String) :
    Option Json → Except HarnessError (Option String)
  | none => .ok target
  | some value => do
    let value ← orError (fails s!"stream {label} is invalid")
      ((Json.asStr value).filter fun value => !value.isEmpty)
    rejectIf (target.any (· != value)) (fails s!"stream changed its {label}")
    .ok (some value)

/-- A chunk up to its candidates. -/
def consumeHead (chunk : Json) (m : Message) :
    Except HarnessError (Message × Option Json) := do
  (validateValueShape chunk).mapError fun _ => fails "stream event JSON is too complex"
  let object ← orError (fails "stream event must be an object") (Json.asObject chunk)
  let responseId ← mergeStableString m.responseId "response ID" (field "responseId" object)
  let modelVersion ← mergeStableString m.modelVersion "model version" (field "modelVersion" object)
  .ok ({ m with
    responseId := responseId
    modelVersion := modelVersion
    promptFeedback := (field "promptFeedback" object).or m.promptFeedback
    usage := (field "usageMetadata" object).or m.usage }, field "candidates" object)

def mergeFinishReason (finishReason : Option String) :
    Option String → Except HarnessError (Option String)
  | none => .ok finishReason
  | some reason => do
    rejectIf (finishReason.any (· != reason)) (fails "stream changed its finish reason")
    .ok (some reason)

/-- The candidate of a chunk up to its parts. -/
def consumeCandidate (candidates : Json) (m : Message) :
    Except HarnessError (Message × List Json) := do
  let candidates ← orError (fails "stream candidates must be an array") (Json.asArray candidates)
  let candidate ← onlyOf "stream event must contain one candidate"
    "stream candidate must be an object" candidates
  rejectIf (((field "index" candidate).bind Json.asU64).getD 0 != 0)
    (fails "stream candidate index is not zero")
  let finishReason ← mergeFinishReason m.finishReason ((field "finishReason" candidate).bind Json.asStr)
  let m := { m with finishReason := finishReason }
  match field "content" candidate with
  | none => .ok (m, [])
  | some content => do
    let content ← orError (fails "stream content must be an object") (Json.asObject content)
    rejectIf ((field "role" content).bind Json.asStr != some "model")
      (fails "stream content is not from the model role")
    let parts ← orError (fails "stream content has no parts")
      ((field "parts" content).bind Json.asArray)
    .ok (m, parts)

/-- The loop over the parts of a chunk. -/
def consumeParts : List Json → Message → Except HarnessError Unit × Message
  | [], m => (.ok (), m)
  | part :: parts, m =>
    let m := { m with
      emitted := m.emitted ++ ((Json.getStr "text" part).filter fun text => !text.isEmpty).toList
      parts := m.parts ++ [part] }
    if maxToolCallsPerBatch + 64 < m.parts.length then
      (.error (fails "stream emitted too many content parts"), m)
    else consumeParts parts m

/-- `consume_chunk`. -/
def consumeChunk (chunk : Json) (m : Message) : Except HarnessError Unit × Message :=
  match consumeHead chunk m with
  | .error e => (.error e, m)
  | .ok (m, none) => (.ok (), m)
  | .ok (m, some candidates) =>
    match consumeCandidate candidates m with
    | .error e => (.error e, m)
    | .ok (m, parts) => consumeParts parts m

/-- The response that a stream spells. -/
def wholeResponse (m : Message) (finishReason : String) : Json :=
  .obj ([("candidates", .arr [.obj [("content", .obj [("parts", .arr m.parts),
      ("role", .str "model")]), ("finishReason", .str finishReason), ("index", .nat 0)]])] ++
    skipNone "modelVersion" .str m.modelVersion ++ skipNone "promptFeedback" id m.promptFeedback ++
    skipNone "responseId" .str m.responseId ++ skipNone "usageMetadata" id m.usage)

/-- `finish`, after the last event. -/
def settle (hash : List UInt8 → Vector UInt8 32) (headerRequestId : Option String) (frame : SseFrame)
    (m : Message) : Except HarnessError ProviderResponse := do
  let finishReason ← orError (fails "stream ended before a settled candidate") m.finishReason
  rejectIf (frame.eventCount == 0) (fails "stream ended before a settled candidate")
  decodeResponseValue hash (wholeResponse m finishReason) headerRequestId

/-- `finish_event`, up to the event. -/
def finishEvent (parse : List UInt8 → Option Json) (frame : SseFrame) :
    Except StreamFailure (SseFrame × Option Json) :=
  if frame.eventData = [] then .ok (frame, none)
  else do
    rejectIf frame.done (.failed (fails "stream continued after [DONE]"))
    if frame.eventData = utf8Bytes "[DONE]" then
      .ok ({ frame with done := true, eventData := [] }, none)
    else
      let frame ← frame.count (.failed (fails "stream emitted too many events"))
      let chunk ← readEvent "Gemini" parse frame.eventData
      .ok ({ frame with eventData := [] }, some chunk)

/-- `consume_line`. -/
def consumeLine (parse : List UInt8 → Option Json) (maximum : Nat) : Framer Json :=
  fun line frame =>
    if line = [] then finishEvent parse frame
    else match fieldValue "data:" line with
      | some value => do
        let frame ← frame.appendData "Gemini" maximum value
        .ok (frame, none)
      | none => .ok (frame, none)

end Gemini

/-- `GeminiSseDecoder`. -/
def geminiSseDecoder (hash : List UInt8 → Vector UInt8 32) (parse : List UInt8 → Option Json)
    (maximum : Nat) (requestId : Option String) :
    SseDecoder Json Gemini.Message ProviderResponse where
  maximum := maximum
  exceeded := .failed (Gemini.fails "stream exceeded its configured limit")
  framer := Gemini.consumeLine parse maximum
  step chunk m := ((Gemini.consumeChunk chunk m).1.mapError .failed, (Gemini.consumeChunk chunk m).2)
  lastLine := id
  settle frame m := ((Gemini.settle hash requestId frame m).mapError .failed, m)

end YHarness.Model

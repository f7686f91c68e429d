/-
# YHarness.Model.Responses -- the decoders of the Responses adapter and of the gateway

`OpenAiSseDecoder` of `src/model/openai_responses.rs` keeps the response of the event that
completes the stream; nothing may follow it.  `ModelGatewayStreamDecoder` of
`src/model/mod.rs` reads a frame from every line: text deltas, then one response.  The
readers of JSON and of frames are parameters.
-/
import YHarness.Model.Sse
import YHarness.Model.Values

namespace YHarness.Model

open YHarness.Lib YHarness.Kernel YHarness.Runtime

set_option autoImplicit false

namespace Responses

def reasoningContinuationFormat : String := "openai.responses.reasoning.v1"

/-- `protocol_failure`. -/
abbrev fails (message : String) : HarnessError :=
  providerFailure .protocol message

/-- `required_string`. -/
def requiredString (fields : List (String × Json)) (name kind : String) :
    Except HarnessError String :=
  orError (fails s!"{kind} has no {name}")
    (((field name fields).bind Json.asStr).filter fun value => !value.isEmpty)

/-! ## A response -/

/-- One round of `collect_message_text`. -/
def collectPart (target : String) (part : Json) : Except HarnessError String := do
  let part ← orError (fails "OpenAI message content must be an object") (Json.asObject part)
  match (field "type" part).bind Json.asStr with
  | some "output_text" | some "refusal" => do
    let fragment ← match requiredString part "text" "OpenAI message content" with
      | .ok text => .ok text
      | .error _ => requiredString part "refusal" "OpenAI message content"
    .ok (target ++ fragment)
  | _ => .ok target

def collectMessageText (item : List (String × Json)) (target : String) :
    Except HarnessError String := do
  let content ← orError (fails "OpenAI message has no content array")
    ((field "content" item).bind Json.asArray)
  content.foldlM collectPart target

/-- What the output items are split into. -/
structure Items where
  text : String
  functionCalls : List ModelToolCall
  continuation : List Json
  hasUnreplayableReasoning : Bool

/-- One round of the loop of `decode_response_value`. -/
def readItem (parse : List UInt8 → Option Json) (read : Items) (item : Json) :
    Except HarnessError Items := do
  let item ← orError (fails "OpenAI output item must be an object") (Json.asObject item)
  match (field "type" item).bind Json.asStr with
  | some "message" => do
    let text ← collectMessageText item read.text
    .ok { read with text := text }
  | some "function_call" => do
    let callId ← requiredString item "call_id" "OpenAI function call"
    let name ← requiredString item "name" "OpenAI function call"
    let arguments ← requiredString item "arguments" "OpenAI function call"
    let input ← orError (fails "OpenAI function arguments are not valid JSON")
      (parse (utf8Bytes arguments))
    .ok { read with functionCalls := read.functionCalls ++ [⟨callId, name, input⟩] }
  | some "reasoning" =>
    if ((field "encrypted_content" item).bind Json.asStr).any fun content => !content.isEmpty then
      .ok { read with continuation := read.continuation ++ [.obj item] }
    else .ok { read with hasUnreplayableReasoning := true }
  | _ => .ok read

def settleOutput : List ModelToolCall → String → Except HarnessError ModelOutput
  | [], text => do
    rejectIf text.isEmpty (fails "OpenAI response has no assistant text or function call")
    .ok (.message text)
  | call :: calls, text => do
    rejectIf (!text.isEmpty) (fails "OpenAI returned both assistant text and function calls")
    .ok (if calls.isEmpty then .toolCall call.callId call.name call.input
      else .toolCalls (call :: calls))

def settleContinuation (items : List Json) : Except HarnessError (Option ModelContinuation) :=
  if items.isEmpty then .ok none
  else do
    let continuation : ModelContinuation := ⟨reasoningContinuationFormat, items⟩
    continuation.validate.mapError fun _ => fails "OpenAI returned invalid continuation state"
    .ok (some continuation)

/-- `decode_usage`, which drops what it cannot read. -/
def decodeUsage (value : Option Json) : Option ModelUsage := do
  let usage ← value.bind Json.asObject
  let inputTokens ← (field "input_tokens" usage).bind Json.asU64
  let outputTokens ← (field "output_tokens" usage).bind Json.asU64
  let detail (parent name : String) : UInt64 :=
    ((((field parent usage).bind Json.asObject).bind (field name)).bind Json.asU64).getD 0
  some ⟨inputTokens, outputTokens, detail "input_tokens_details" "cached_tokens",
    detail "output_tokens_details" "reasoning_tokens"⟩

def decodeResponseValue (parse : List UInt8 → Option Json) (root : Json)
    (providerRequestId : Option String) : Except HarnessError ProviderResponse := do
  (validateValueShape root).mapError fun _ => fails "OpenAI response JSON is too complex"
  let object ← orError (fails "OpenAI response must be an object") (Json.asObject root)
  rejectIf ((field "status" object).bind Json.asStr != some "completed")
    (fails "OpenAI response did not complete")
  let output ← orError (fails "OpenAI response has no output array")
    ((field "output" object).bind Json.asArray)
  let read ← output.foldlM (readItem parse) ⟨"", [], [], false⟩
  rejectIf (!read.functionCalls.isEmpty && read.hasUnreplayableReasoning)
    (fails "OpenAI function call contains reasoning that cannot be replayed with store disabled")
  let output ← settleOutput read.functionCalls read.text
  let continuation ← settleContinuation read.continuation
  let providerModel ← requiredString object "model" "OpenAI response"
  let response : ModelResponse := ⟨output, some providerModel, providerRequestId, continuation⟩
  (validateModelResponse response).mapError fun error => fails error.display
  .ok ⟨response, decodeUsage (field "usage" object)⟩

/-! ## A stream -/

/-- What the events of a stream have left. -/
structure Message where
  finalResponse : Option ProviderResponse
  /-- The text deltas handed to the stream. -/
  emitted : List String

/-- What an event does that is an object. -/
def consumeEvent (parse : List UInt8 → Option Json) (requestId : Option String)
    (event : List (String × Json)) (m : Message) : Except HarnessError Message := do
  rejectIf m.finalResponse.isSome (fails "OpenAI stream continued after its completed response")
  match (field "type" event).bind Json.asStr with
  | some "response.output_text.delta" => do
    let delta ← requiredString event "delta" "OpenAI stream text delta"
    .ok { m with emitted := m.emitted ++ boundedDeltas delta }
  | some "response.completed" => do
    let response ← orError (fails "OpenAI completed event has no response") (field "response" event)
    let response ← decodeResponseValue parse response requestId
    .ok { m with finalResponse := some response }
  | some "response.failed" | some "response.incomplete" =>
    .error (fails "OpenAI streaming response did not complete")
  | _ => .ok m

/-- `finish_event`, up to the event. -/
def finishEvent (parse : List UInt8 → Option Json) (frame : SseFrame) :
    Except StreamFailure (SseFrame × Option (List (String × Json))) :=
  if frame.eventData = [] then .ok (frame, none)
  else do
    let frame ← frame.count (.failed (fails s!"OpenAI stream exceeds {maxStreamEvents} events"))
    let event ← orError (.failed (fails "OpenAI stream returned invalid JSON"))
      (parse frame.eventData)
    (validateValueShape event).mapError fun _ =>
      .failed (fails "OpenAI stream JSON is too complex")
    let event ← orError (.failed (fails "OpenAI stream event must be an object"))
      (Json.asObject event)
    .ok ({ frame with eventData := [] }, some event)

/-- `consume_line`. -/
def consumeLine (parse : List UInt8 → Option Json) (maximum : Nat) :
    Framer (List (String × Json)) :=
  fun line frame =>
    if line = [] then finishEvent parse frame
    else match fieldValue "data:" line with
      | some data => do
        let frame ← frame.appendData "OpenAI" maximum data
        .ok (frame, none)
      | none => .ok (frame, none)

/-- `finish`, after the last event. -/
def settle (m : Message) : Except HarnessError ProviderResponse :=
  orError (fails "OpenAI stream ended without a completed response") m.finalResponse

end Responses

/-- `OpenAiSseDecoder`. -/
def openAiSseDecoder (parse : List UInt8 → Option Json) (maximum : Nat)
    (requestId : Option String) :
    SseDecoder (List (String × Json)) Responses.Message ProviderResponse where
  maximum := maximum
  exceeded := .failed (Responses.fails "OpenAI stream exceeded its configured limit")
  framer := Responses.consumeLine parse maximum
  step := stepOf fun event m => (Responses.consumeEvent parse requestId event m).mapError .failed
  lastLine := stripReturn
  settle _ m := ((Responses.settle m).mapError .failed, m)

/-! ## The gateway -/

namespace Gateway

abbrev fails (message : String) : HarnessError :=
  providerFailure .protocol message

inductive ModelGatewayStreamFrame where
  | textDelta (delta : String)
  | response (response : ProviderResponse)

def maxModelStreamFrames : Nat := 4096

def maxModelStreamDeltaBytes : Nat := 4096

/-- What the frames of a stream have left. -/
structure Frames where
  frameCount : Nat
  finalResponse : Option ProviderResponse
  /-- The text deltas handed to the stream. -/
  emitted : List String

def Frames.new : Frames :=
  ⟨0, none, []⟩

/-- `parse_stream_frame`. -/
def parseStreamFrame (read : List UInt8 → Option ModelGatewayStreamFrame) (line : List UInt8)
    (frames : Frames) : Except HarnessError Frames := do
  let line := stripReturn line
  rejectIf line.isEmpty (fails "HTTPS model stream contains an empty frame")
  let frames := { frames with frameCount := frames.frameCount + 1 }
  rejectIf (decide (maxModelStreamFrames < frames.frameCount))
    (fails s!"HTTPS model stream exceeds {maxModelStreamFrames} frames")
  rejectIf frames.finalResponse.isSome
    (fails "HTTPS model stream contains frames after its final response")
  let frame ← orError (fails "HTTPS model stream contains invalid JSON") (read line)
  match frame with
  | .textDelta delta => do
    rejectIf (delta.isEmpty || decide (maxModelStreamDeltaBytes < delta.utf8ByteSize))
      (fails s!"HTTPS model stream delta must be 1-{maxModelStreamDeltaBytes} bytes")
    .ok { frames with emitted := frames.emitted ++ [delta] }
  | .response response => do
    (validateModelResponse response.response).mapError fun error => fails error.display
    .ok { frames with finalResponse := some response }

/-- A line of `push`. -/
def consumeLine (read : List UInt8 → Option ModelGatewayStreamFrame) (line : List UInt8)
    (frames : Frames) : Except HarnessError Unit × Frames :=
  match parseStreamFrame read line frames with
  | .ok frames => (.ok (), frames)
  | .error e => (.error e, frames)

/-- `finish`. -/
def finish (read : List UInt8 → Option ModelGatewayStreamFrame) (pending : List UInt8)
    (frames : Frames) : Except HarnessError ProviderResponse × Frames :=
  match if pending = [] then (.ok (), frames) else consumeLine read pending frames with
  | (.ok (), frames) => (orError (fails "HTTPS model stream ended without a final response")
      frames.finalResponse, frames)
  | (.error e, frames) => (.error e, frames)

/-- `ModelGatewayStreamDecoder`: every chunk is pushed, and the stream finished. -/
def decode (read : List UInt8 → Option ModelGatewayStreamFrame) (maximum : Nat)
    (chunks : List (List UInt8)) : Except HarnessError ProviderResponse × Frames :=
  match LineBuffer.pushAll maximum (fails "HTTPS model stream exceeded its configured limit")
    (consumeLine read) chunks ⟨[], 0, 0, .new⟩ with
  | (.ok (), buffer) => finish read buffer.pending buffer.inner
  | (.error e, buffer) => (.error e, buffer.inner)

end Gateway

end YHarness.Model

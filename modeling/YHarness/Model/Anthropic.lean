/-
# YHarness.Model.Anthropic -- the Anthropic Messages decoder

`decode_response_value` and `AnthropicSseDecoder` of `src/model/anthropic_messages.rs`.  The
decoder rebuilds a message from its events: blocks are kept under their index, the input of
a Tool block as the text received so far.  Writing to a field of a JSON value that is
neither an object nor `null` panics (`setIndex`), as `serde_json` does.
-/
import YHarness.Lib.OrdMap
import YHarness.Model.Sse
import YHarness.Model.Values

namespace YHarness.Model

open YHarness.Lib YHarness.Kernel YHarness.Runtime
open YHarness.State (maxToolCallsPerBatch)

set_option autoImplicit false

/-- `value[key] = field`, which panics where the value holds no fields. -/
def setIndex (key : String) (written : Json) : Json → Except StreamFailure Json
  | .obj fields => .ok (.obj (insertField key written fields))
  | .null => .ok (.obj [(key, written)])
  | _ => .error .panicked

/-! ## Whole messages -/

namespace Anthropic

abbrev fails (message : String) : StreamFailure :=
  Model.fails "Anthropic" message

def continuationFormat : String := "anthropic.messages.content.v1"

def maxStreamBlocks : Nat := maxToolCallsPerBatch + 64

def requiredString : List (String × Json) → String → String → Except StreamFailure String :=
  Model.requiredString fails

/-- What the blocks of a message are split into. -/
structure Blocks where
  text : String
  calls : List ModelToolCall
  nonToolBlocks : List Json

/-- One round of the loop of `decode_response_value`. -/
def readBlock (read : Blocks) (block : Json) : Except StreamFailure Blocks := do
  let fields ← orError (fails "content block must be an object") (Json.asObject block)
  match (field "type" fields).bind Json.asStr with
  | some "text" => do
    let value ← requiredString fields "text" "text block"
    .ok { read with text := read.text ++ value }
  | some "tool_use" => do
    let callId ← requiredString fields "id" "tool-use block"
    let name ← requiredString fields "name" "tool-use block"
    let input ← orError (fails "tool-use block has no input") (field "input" fields)
    .ok { read with calls := read.calls ++ [⟨callId, name, input⟩] }
  | some _ => .ok { read with nonToolBlocks := read.nonToolBlocks ++ [.obj fields] }
  | none => .error (fails "content block has no type")

def callsToOutput : List ModelToolCall → Except StreamFailure ModelOutput :=
  Model.callsToOutput fails

def requiredUnsigned : List (String × Json) → String → Except StreamFailure UInt64 :=
  Model.requiredUnsigned fails "usage"

def optionalUnsigned : List (String × Json) → String → Except StreamFailure UInt64 :=
  Model.optionalUnsigned fails "usage"

def decodeUsage : Option Json → Except StreamFailure (Option ModelUsage)
  | none => .ok none
  | some value => do
    let usage ← orError (fails "usage must be an object") (Json.asObject value)
    let inputTokens ← requiredUnsigned usage "input_tokens"
    let outputTokens ← requiredUnsigned usage "output_tokens"
    let cachedInputTokens ← optionalUnsigned usage "cache_read_input_tokens"
    .ok (some ⟨inputTokens, outputTokens, cachedInputTokens, 0⟩)

/-- The output of a message and the blocks that continue it. -/
def settleOutput (stopReason : String) (read : Blocks) :
    Except StreamFailure (ModelOutput × List Json) :=
  if read.calls.isEmpty then do
    rejectIf (!(stopReason == "end_turn" || stopReason == "stop_sequence") || isBlank read.text)
      (fails "response did not settle as assistant text")
    .ok (.message read.text, read.nonToolBlocks)
  else do
    rejectIf (stopReason != "tool_use") (fails "Tool calls did not settle with tool_use")
    let output ← callsToOutput read.calls
    .ok (output, (if read.text.isEmpty then [] else
      [.obj [("text", .str read.text), ("type", .str "text")]]) ++ read.nonToolBlocks)

def decodeResponseValue (root : Json) (headerRequestId : Option String) :
    Except StreamFailure ProviderResponse := do
  (validateValueShape root).mapError fun _ => fails "response JSON is too complex"
  let object ← orError (fails "response must be an object") (Json.asObject root)
  rejectIf ((field "type" object).bind Json.asStr != some "message" ||
      (field "role" object).bind Json.asStr != some "assistant")
    (fails "response is not an assistant message")
  let content ← orError (fails "response has no content array")
    ((field "content" object).bind Json.asArray)
  let read ← content.foldlM readBlock ⟨"", [], []⟩
  let stopReason ← orError (fails "response has no stop reason")
    ((field "stop_reason" object).bind Json.asStr)
  rejectIf (stopReason == "max_tokens")
    (.failed (providerFailure .requestRejected "Anthropic response reached max_tokens"))
  rejectIf (stopReason == "refusal")
    (.failed (providerFailure .contentPolicy "Anthropic declined the request"))
  let (output, continued) ← settleOutput stopReason read
  let continuation ← if read.calls.isEmpty || continued.isEmpty then .ok none else do
    let continuation : ModelContinuation := ⟨continuationFormat, continued⟩
    continuation.validate.mapError fun _ => fails "returned invalid continuation"
    .ok (some continuation)
  let usage ← decodeUsage (field "usage" object)
  let providerModel ← requiredString object "model" "message"
  let response : ModelResponse := ⟨output, some providerModel,
    headerRequestId.or ((field "id" object).bind Json.asStr), continuation⟩
  (validateModelResponse response).mapError fun error => fails error.display
  .ok ⟨response, usage⟩

/-! ## Events -/

/-- What the events of a stream have built. -/
structure Message where
  message : Option (List (String × Json))
  blocks : OrdMap Nat Json
  closedBlocks : OrdSet Nat
  toolInputs : OrdMap Nat String
  stopped : Bool
  /-- The text deltas handed to the stream. -/
  emitted : List String

def Message.new : Message :=
  ⟨none, ∅, ∅, ∅, false, []⟩

/-- `event_index`. -/
def eventIndex (value : Json) : Except StreamFailure Nat :=
  orError (fails "stream event has no valid index")
    (((Json.get "index" value).bind Json.asU64).map UInt64.toNat)

/-- `append_block_string`. -/
def appendBlockString (block : Option Json) (name : String) (delta : List (String × Json)) :
    Except StreamFailure Json := do
  let fragment ← orError (fails "stream delta has no text fragment")
    ((field name delta).bind Json.asStr)
  let fields ← orError (fails "stream delta has no open content block")
    (block.bind Json.asObject)
  let current := ((field name fields).bind Json.asStr).getD ""
  .ok (.obj (insertField name (.str (current ++ fragment)) fields))

namespace Message

/-- A text that is not empty is handed to the stream. -/
def emit (text : String) (m : Message) : Message :=
  if text.isEmpty then m else { m with emitted := m.emitted ++ [text] }

def messageStart (value : Json) (m : Message) : Except StreamFailure Message := do
  rejectIf m.message.isSome (fails "stream repeated message_start")
  let message ← orError (fails "message_start has no message")
    ((Json.get "message" value).bind Json.asObject)
  .ok { m with message := some (insertField "content" (.arr []) message) }

def contentBlockStart (value : Json) (m : Message) : Except StreamFailure Message := do
  let index ← eventIndex value
  rejectIf (decide (maxStreamBlocks ≤ index) || m.blocks.contains index)
    (fails "stream content-block index is invalid")
  let block ← orError (fails "content_block_start has no block") (Json.get "content_block" value)
  let m := match Json.getStr "type" block with
    | some "tool_use" => { m with toolInputs := m.toolInputs.insert index "" }
    | some "text" => m.emit ((Json.getStr "text" block).getD "")
    | _ => m
  .ok { m with blocks := m.blocks.insert index block }

/-- A `text_delta`. -/
def textDelta (index : Nat) (delta : List (String × Json)) (m : Message) :
    Except StreamFailure Message := do
  let text ← orError (fails "text_delta has no text") ((field "text" delta).bind Json.asStr)
  let block ← orError (fails "text_delta has no open block") m.blocks[index]?
  let block ← setIndex "text" (.str ((Json.getStr "text" block).getD "" ++ text)) block
  .ok (Message.emit text { m with blocks := m.blocks.insert index block })

/-- An `input_json_delta`. -/
def inputJsonDelta (maximum index : Nat) (delta : List (String × Json)) (m : Message) :
    Except StreamFailure Message := do
  let fragment ← orError (fails "input_json_delta has no partial_json")
    ((field "partial_json" delta).bind Json.asStr)
  let input ← orError (fails "input_json_delta has no open Tool block") m.toolInputs[index]?
  rejectIf (decide (maximum < (input ++ fragment).utf8ByteSize))
    (fails "stream Tool input exceeded its configured limit")
  .ok { m with toolInputs := m.toolInputs.insert index (input ++ fragment) }

/-- A delta that adds to a text of its block. -/
def blockDelta (name : String) (index : Nat) (delta : List (String × Json)) (m : Message) :
    Except StreamFailure Message := do
  let block ← appendBlockString m.blocks[index]? name delta
  .ok { m with blocks := m.blocks.insert index block }

def contentBlockDelta (maximum : Nat) (value : Json) (m : Message) :
    Except StreamFailure Message := do
  let index ← eventIndex value
  rejectIf (m.closedBlocks.contains index)
    (fails "content_block_delta followed content_block_stop")
  let delta ← orError (fails "content_block_delta has no delta")
    ((Json.get "delta" value).bind Json.asObject)
  match (field "type" delta).bind Json.asStr with
  | some "text_delta" => m.textDelta index delta
  | some "input_json_delta" => m.inputJsonDelta maximum index delta
  | some "thinking_delta" => m.blockDelta "thinking" index delta
  | some "signature_delta" => m.blockDelta "signature" index delta
  | some _ => .error (fails "stream content block used an unsupported delta type")
  | none => .error (fails "delta has no type")

/-- The input that the deltas of a Tool block spell. -/
def decodeInput (parse : List UInt8 → Option Json) (encoded : String) :
    Except StreamFailure Json :=
  if encoded.isEmpty then .ok (.obj []) else
    orError (fails "Tool input is invalid JSON") (parse (utf8Bytes encoded))

/-- The input of a Tool block, once it is complete. -/
def settleInput (parse : List UInt8 → Option Json) (index : Nat) (encoded : String)
    (m : Message) : Except StreamFailure Message := do
  let input ← decodeInput parse encoded
  let block ← orError (fails "Tool input has no content block") m.blocks[index]?
  let block ← setIndex "input" input block
  .ok { m with blocks := m.blocks.insert index block }

def contentBlockStop (parse : List UInt8 → Option Json) (value : Json) (m : Message) :
    Except StreamFailure Message := do
  let index ← eventIndex value
  rejectIf (!m.blocks.contains index || m.closedBlocks.contains index)
    (fails "content_block_stop has no unique open block")
  let closed := { m with closedBlocks := m.closedBlocks.insert index }
  match m.toolInputs[index]? with
  | none => .ok closed
  | some encoded =>
    settleInput parse index encoded { closed with toolInputs := m.toolInputs.erase index }

def messageDelta (value : Json) (m : Message) : Except StreamFailure Message := do
  let message ← orError (fails "message_delta preceded message_start") m.message
  let message := match ((Json.get "delta" value).bind Json.asObject).bind (field "stop_reason") with
    | some reason => insertField "stop_reason" reason message
    | none => message
  match (Json.get "usage" value).bind Json.asObject with
  | none => .ok { m with message := some message }
  | some usage => do
    let target ← orError (fails "stream usage is inconsistent")
      (Json.asObject ((field "usage" message).getD (.obj [])))
    let merged := usage.foldl (fun target entry => insertField entry.1 entry.2 target) target
    .ok { m with message := some (insertField "usage" (.obj merged) message) }

def messageStop (m : Message) : Except StreamFailure Message := do
  rejectIf (m.stopped || m.message.isNone || !m.toolInputs.isEmpty ||
      m.closedBlocks.size != m.blocks.size)
    (fails "message_stop arrived at an invalid boundary")
  .ok { m with stopped := true }

/-- An `error` event. -/
def errorEvent (value : Json) : StreamFailure :=
  let errorType := (((Json.get "error" value).bind Json.asObject).bind (field "type")).bind
    Json.asStr
  .failed (providerFailure (if errorType = some "overloaded_error" then .overloaded else .server)
    "Anthropic stream returned an error event")

/-- `consume_event`. -/
def consumeEvent (parse : List UInt8 → Option Json) (maximum : Nat) (kind : String) (value : Json)
    (m : Message) : Except StreamFailure Message :=
  match kind with
  | "message_start" => m.messageStart value
  | "content_block_start" => m.contentBlockStart value
  | "content_block_delta" => m.contentBlockDelta maximum value
  | "content_block_stop" => m.contentBlockStop parse value
  | "message_delta" => m.messageDelta value
  | "message_stop" => m.messageStop
  | "error" => .error (errorEvent value)
  | _ => .ok m

/-- What `finish` makes of the events. -/
def settle (headerRequestId : Option String) (m : Message) :
    Except StreamFailure ProviderResponse := do
  rejectIf (!m.stopped || !m.toolInputs.isEmpty || m.closedBlocks.size != m.blocks.size)
    (fails "stream ended before message_stop")
  let message ← orError (fails "stream has no message") m.message
  let blocks ← (List.range m.blocks.size).mapM fun index =>
    orError (fails "stream content-block indices are sparse") m.blocks[index]?
  decodeResponseValue (.obj (insertField "content" (.arr blocks) message)) headerRequestId

end Message

end Anthropic

/-! ## The decoder -/

namespace AnthropicSseDecoder

/-- `finish_event`, up to the event. -/
def finishEvent (parse : List UInt8 → Option Json) (frame : SseFrame) :
    Except StreamFailure (SseFrame × Option (String × Json)) :=
  if frame.eventData = [] then .ok ({ frame with eventName := none }, none)
  else do
    let frame ← frame.count (Anthropic.fails "stream emitted too many events")
    let value ← readEvent "Anthropic" parse frame.eventData
    checkEventShape "Anthropic" value
    let kind ← orError (Anthropic.fails "stream event has no type") (Json.getStr "type" value)
    rejectIf (frame.eventName.any (· != kind))
      (Anthropic.fails "stream event name and type differ")
    .ok ({ frame with eventName := none, eventData := [] }, some (kind, value))

/-- `consume_line`. -/
def consumeLine (parse : List UInt8 → Option Json) (maximum : Nat) : Framer (String × Json) :=
  fun line frame =>
    if line = [] then finishEvent parse frame
    else match fieldValue "event:" line with
      | some value => do
        let name ← orError (Anthropic.fails "stream event name is not UTF-8")
          (String.fromUTF8? ⟨value.toArray⟩)
        rejectIf (name.isEmpty || decide (64 < name.utf8ByteSize) || hasControl name)
          (Anthropic.fails "stream event name is invalid")
        .ok ({ frame with eventName := some name }, none)
      | none =>
        match fieldValue "data:" line with
        | some value => do
          let frame ← frame.appendData "Anthropic" maximum value
          .ok (frame, none)
        | none => .ok (frame, none)

end AnthropicSseDecoder

/-- `AnthropicSseDecoder`. -/
def anthropicSseDecoder (parse : List UInt8 → Option Json) (maximum : Nat)
    (requestId : Option String) :
    SseDecoder (String × Json) Anthropic.Message ProviderResponse where
  maximum := maximum
  exceeded := Anthropic.fails "stream exceeded its configured limit"
  framer := AnthropicSseDecoder.consumeLine parse maximum
  step := stepOf fun event m => m.consumeEvent parse maximum event.1 event.2
  lastLine := id
  settle _ m := (m.settle requestId, m)

end YHarness.Model

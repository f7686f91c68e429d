/-
# YHarness.Model.Decoders -- streams arrive in chunks

What a stream decoder returns and the text deltas it emits depend on the bytes of the stream
only.  The decoders share `push`, so this is the chunk lemma of the line buffer, once for the
decoders of server-sent events (`SseDecoder.decode_flatten`) and once for the gateway.
-/
import YHarness.Model.AnthropicStream
import YHarness.Model.ChatStream
import YHarness.Model.Gemini
import YHarness.Model.Responses

namespace YHarness.Model

open YHarness.Lib YHarness.Kernel YHarness.Runtime

set_option autoImplicit false

namespace Gateway

variable (read : List UInt8 → Option ModelGatewayStreamFrame)

/-- What comes of the lines of a stream. -/
def settled (done : Except HarnessError (List UInt8) × Frames) :
    Except HarnessError ProviderResponse × Frames :=
  match done with
  | (.ok tail, frames) => finish read tail frames
  | (.error e, frames) => (.error e, frames)

theorem decode_outcome (maximum : Nat) (chunks : List (List UInt8)) :
    decode read maximum chunks = settled read (outcome (LineBuffer.pushAll maximum
      (fails "HTTPS model stream exceeded its configured limit") (consumeLine read) chunks
      ⟨[], 0, 0, .new⟩)) := by
  unfold decode
  match LineBuffer.pushAll maximum (fails "HTTPS model stream exceeded its configured limit")
    (consumeLine read) chunks ⟨[], 0, 0, .new⟩ with
  | (.ok (), buffer) => rfl
  | (.error e, buffer) => rfl

theorem decode_flatten {maximum : Nat} {chunks : List (List UInt8)}
    (short : chunks.flatten.length ≤ maximum) :
    decode read maximum chunks = decode read maximum [chunks.flatten] := by
  have whole : [chunks.flatten].flatten = chunks.flatten := List.flatten_singleton ..
  have short' : [chunks.flatten].flatten.length ≤ maximum := by
    rw [whole]
    exact short
  rw [decode_outcome, decode_outcome, pushAll_eq _ _ _ _ short, pushAll_eq _ _ _ _ short', whole]

end Gateway

/-- **Chunks do not matter**, neither for the response or the failure nor for what was emitted. -/
theorem decode_of_chunks (parse : List UInt8 → Option Json) (hash : List UInt8 → Vector UInt8 32)
    (read : List UInt8 → Option Gateway.ModelGatewayStreamFrame) (maximum : Nat)
    (requestId : Option String) (chunks : List (List UInt8))
    (short : chunks.flatten.length ≤ maximum) :
    (chatSseDecoder parse maximum requestId).decode chunks .new =
        (chatSseDecoder parse maximum requestId).decode [chunks.flatten] .new ∧
      (anthropicSseDecoder parse maximum requestId).decode chunks .new =
        (anthropicSseDecoder parse maximum requestId).decode [chunks.flatten] .new ∧
      (geminiSseDecoder hash parse maximum requestId).decode chunks .new =
        (geminiSseDecoder hash parse maximum requestId).decode [chunks.flatten] .new ∧
      (openAiSseDecoder parse maximum requestId).decode chunks ⟨none, []⟩ =
        (openAiSseDecoder parse maximum requestId).decode [chunks.flatten] ⟨none, []⟩ ∧
      Gateway.decode read maximum chunks = Gateway.decode read maximum [chunks.flatten] :=
  ⟨SseDecoder.decode_flatten _ short _, SseDecoder.decode_flatten _ short _,
    SseDecoder.decode_flatten _ short _, SseDecoder.decode_flatten _ short _,
    Gateway.decode_flatten read short⟩

/-- A stream that is cut in the name of a field. -/
theorem decode_of_chunks_sample :
    let bytes := Anthropic.streamOf Anthropic.sampleStream
    (anthropicSseDecoder (Anthropic.readerOf Anthropic.sampleStream) 4096 none).decode
        [bytes.take 3, bytes.drop 3] .new =
      (anthropicSseDecoder (Anthropic.readerOf Anthropic.sampleStream) 4096 none).decode
        [[bytes.take 3, bytes.drop 3].flatten] .new :=
  (decode_of_chunks (Anthropic.readerOf Anthropic.sampleStream) (fun _ => .replicate 32 0)
    (fun _ => none) 4096 none _ (by decide +kernel)).2.1

end YHarness.Model

/-
# YHarness.Model.Sse -- the stream decoders of the Model adapters

The decoders of `src/model` that read server-sent events share their `push`, which cuts the
bytes into lines, and differ in what a line does: a *framer* collects the data of an event
and reads its JSON, and a step consumes the event.  The state of a framer does not depend on
what the events did, so a stream has its events whatever decodes them (`eventsOf`), and a
decoder consumes them one after the other (`decode_eq`).

The JSON reader is outside the repository and a parameter.
-/
import YHarness.Lib.Lines
import YHarness.Kernel.Fields
import YHarness.Runtime.Types

namespace YHarness.Model

open YHarness.Lib YHarness.Kernel YHarness.Runtime

set_option autoImplicit false

/-! ## Failures and responses -/

/-- How a decoder stops before the end: with an error, or in a panic. -/
inductive StreamFailure where
  | failed (error : HarnessError)
  | panicked

/-- `provider_failure`. -/
def providerFailure (kind : ModelProviderFailureKind) (message : String) : HarnessError :=
  let failure : ModelProviderFailure := ⟨kind, message, none, none⟩
  match ModelProviderFailure.validate failure with
  | .ok () => .modelProvider failure
  | .error _ => .invalidCapability "model Provider failure evidence is invalid"

/-- `protocol_failure` of the native adapters. -/
def protocolFailure (provider message : String) : HarnessError :=
  providerFailure .protocol (provider ++ " " ++ message)

abbrev fails (provider message : String) : StreamFailure :=
  .failed (protocolFailure provider message)

structure ModelUsage where
  inputTokens : UInt64
  outputTokens : UInt64
  cachedInputTokens : UInt64
  reasoningTokens : UInt64

/-- What an adapter decodes: the Model's response and the usage that the provider reports. -/
structure ProviderResponse where
  response : ModelResponse
  usage : Option ModelUsage

def maxStreamEvents : Nat := 4096

/-- The pieces of `emit_bounded_delta`, after a piece that is not full yet. -/
def boundedDeltasFrom : List Char → String → List String
  | [], piece => if piece.isEmpty then [] else [piece]
  | character :: rest, piece =>
    if 4096 < piece.utf8ByteSize + character.utf8Size then
      piece :: boundedDeltasFrom rest (String.singleton character)
    else boundedDeltasFrom rest (piece.push character)

def boundedDeltas (delta : String) : List String :=
  boundedDeltasFrom delta.toList ""

/-! ## Framing -/

/-- `strip_suffix(b"\r")`, or the line itself. -/
def stripReturn (line : List UInt8) : List UInt8 :=
  if line.getLast? = some 13 then line.dropLast else line

/-- The value of a line of this field, without the blank before it. -/
def fieldValue (name : String) (line : List UInt8) : Option (List UInt8) :=
  ((utf8Bytes name).isPrefixOf? line).map fun value => (List.isPrefixOf? [32] value).getD value

/-- What a decoder keeps between lines of an event, and of the events it has counted. -/
structure SseFrame where
  eventName : Option String
  eventData : List UInt8
  eventCount : Nat
  done : Bool

def SseFrame.new : SseFrame :=
  ⟨none, [], 0, false⟩

/-- What a line does to the frame, and the event that it completes. -/
abbrev Framer (E : Type) : Type :=
  List UInt8 → SseFrame → Except StreamFailure (SseFrame × Option E)

namespace SseFrame

/-- A line of data is added to the event. -/
def appendData (provider : String) (maximum : Nat) (value : List UInt8) (frame : SseFrame) :
    Except StreamFailure SseFrame := do
  let eventData :=
    (if frame.eventData = [] then [] else frame.eventData ++ [newlineByte]) ++ value
  rejectIf (decide (maximum < eventData.length))
    (fails provider "stream event exceeded its configured limit")
  .ok { frame with eventData }

/-- One event more. -/
def count (tooMany : StreamFailure) (frame : SseFrame) : Except StreamFailure SseFrame := do
  let frame := { frame with eventCount := frame.eventCount + 1 }
  rejectIf (decide (maxStreamEvents < frame.eventCount)) tooMany
  .ok frame

end SseFrame

/-- `serde_json::from_slice` of the data of an event. -/
def readEvent (provider : String) (parse : List UInt8 → Option Json) (data : List UInt8) :
    Except StreamFailure Json :=
  orError (fails provider "stream event is invalid JSON") (parse data)

def checkEventShape (provider : String) (value : Json) : Except StreamFailure Unit :=
  (validateValueShape value).mapError fun _ => fails provider "stream event JSON is too complex"

/-! ## Decoders -/

/-- A decoder of server-sent events, around what an event does and how a stream settles. -/
structure SseDecoder (E σ ρ : Type) where
  maximum : Nat
  exceeded : StreamFailure
  framer : Framer E
  step : E → σ → Except StreamFailure Unit × σ
  lastLine : List UInt8 → List UInt8
  settle : SseFrame → σ → Except StreamFailure ρ × σ

/-- A step that leaves what it was given where it fails. -/
def stepOf {E σ : Type} (step : E → σ → Except StreamFailure σ) (event : E) (s : σ) :
    Except StreamFailure Unit × σ :=
  match step event s with
  | .ok s => (.ok (), s)
  | .error e => (.error e, s)

namespace SseDecoder

variable {E σ ρ : Type} (decoder : SseDecoder E σ ρ)

def consumeLine (line : List UInt8) (s : SseFrame × σ) :
    Except StreamFailure Unit × (SseFrame × σ) :=
  match decoder.framer line s.1 with
  | .error e => (.error e, s)
  | .ok (frame, none) => (.ok (), (frame, s.2))
  | .ok (frame, some event) => ((decoder.step event s.2).1, (frame, (decoder.step event s.2).2))

/-- A line of `push`. -/
def pushLine (line : List UInt8) (s : SseFrame × σ) :
    Except StreamFailure Unit × (SseFrame × σ) :=
  decoder.consumeLine (stripReturn line) s

/-- The lines of `finish`: what is left, and the empty line that ends the last event. -/
def lastLines (tail : List UInt8) : List (List UInt8) :=
  (if tail = [] then [] else [decoder.lastLine tail]) ++ [[]]

def finish (tail : List UInt8) (s : SseFrame × σ) : Except StreamFailure ρ × σ :=
  match consumeAll decoder.consumeLine (decoder.lastLines tail) s with
  | (.ok (), s) => decoder.settle s.1 s.2
  | (.error e, s) => (.error e, s.2)

/-- Every chunk is pushed, and the stream finished. -/
def decode (chunks : List (List UInt8)) (start : σ) : Except StreamFailure ρ × σ :=
  match LineBuffer.pushAll decoder.maximum decoder.exceeded decoder.pushLine chunks
    ⟨[], 0, 0, (SseFrame.new, start)⟩ with
  | (.ok (), buffer) => decoder.finish buffer.pending buffer.inner
  | (.error e, buffer) => (.error e, buffer.inner.2)

/-- What comes of the lines of a stream. -/
def settled (decoder : SseDecoder E σ ρ) (done : Except StreamFailure (List UInt8) × (SseFrame × σ)) :
    Except StreamFailure ρ × σ :=
  match done with
  | (.ok tail, s) => decoder.finish tail s
  | (.error e, s) => (.error e, s.2)

theorem decode_outcome (chunks : List (List UInt8)) (start : σ) :
    decoder.decode chunks start = decoder.settled (outcome
      (LineBuffer.pushAll decoder.maximum decoder.exceeded decoder.pushLine chunks
        ⟨[], 0, 0, (SseFrame.new, start)⟩)) := by
  unfold decode
  match LineBuffer.pushAll decoder.maximum decoder.exceeded decoder.pushLine chunks
    ⟨[], 0, 0, (SseFrame.new, start)⟩ with
  | (.ok (), buffer) => rfl
  | (.error e, buffer) => rfl

variable {chunks : List (List UInt8)}

/-- **A decoder does not depend on the chunks.** -/
theorem decode_flatten (short : chunks.flatten.length ≤ decoder.maximum) (start : σ) :
    decoder.decode chunks start = decoder.decode [chunks.flatten] start := by
  have whole : [chunks.flatten].flatten = chunks.flatten := List.flatten_singleton ..
  have short' : [chunks.flatten].flatten.length ≤ decoder.maximum := by
    rw [whole]
    exact short
  rw [decode_outcome, decode_outcome, pushAll_eq _ _ _ _ short, pushAll_eq _ _ _ _ short', whole]

/-! ## The events of a stream -/

/-- The events that lines complete, up to a line that cannot be framed, and the frame after
them. -/
def framed (framer : Framer E) : List (List UInt8) → SseFrame → List E × Except StreamFailure SseFrame
  | [], frame => ([], .ok frame)
  | line :: lines, frame =>
    match framer line frame with
    | .error e => ([], .error e)
    | .ok (frame, event) =>
      (event.toList ++ (framed framer lines frame).1, (framed framer lines frame).2)

/-- The frame, if nothing failed, and what the events have done. -/
def progress (done : Except StreamFailure Unit × (SseFrame × σ)) :
    Except StreamFailure SseFrame × σ :=
  (done.1.map fun _ => done.2.1, done.2.2)

/-- **Consuming lines is consuming their events**; then a line may not be framed. -/
theorem consumeAll_framed (lines : List (List UInt8)) (frame : SseFrame) (s : σ) :
    progress (consumeAll decoder.consumeLine lines (frame, s)) =
      match consumeAll decoder.step (framed decoder.framer lines frame).1 s with
      | (.ok (), s) => ((framed decoder.framer lines frame).2, s)
      | (.error e, s) => (.error e, s) := by
  induction lines generalizing frame s with
  | nil => rfl
  | cons line lines ih =>
    rw [consumeAll, consumeLine, framed]
    rcases decoder.framer line frame with e | ⟨frame, _ | event⟩
    · rfl
    · exact ih frame s
    · dsimp only
      rw [Option.toList_some, List.singleton_append, consumeAll]
      rcases decoder.step event s with ⟨e | _, s⟩
      · rfl
      · exact ih frame s

/-- The lines of a stream as they are consumed. -/
def linesOf (bytes : List UInt8) : List (List UInt8) :=
  (splitLines bytes).1.map stripReturn ++ decoder.lastLines (splitLines bytes).2

/-- The events of a stream. -/
def eventsOf (bytes : List UInt8) : List E :=
  (framed decoder.framer (decoder.linesOf bytes) .new).1

theorem consumeAll_pushLine (lines : List (List UInt8)) (s : SseFrame × σ) :
    consumeAll decoder.pushLine lines s =
      consumeAll decoder.consumeLine (lines.map stripReturn) s := by
  induction lines generalizing s with
  | nil => rfl
  | cons line lines ih =>
    rw [List.map_cons, consumeAll, consumeAll, pushLine]
    rcases decoder.consumeLine (stripReturn line) s with ⟨e | _, s⟩
    · rfl
    · exact ih s

/-- How a stream settles. -/
def settles (done : Except StreamFailure SseFrame × σ) : Except StreamFailure ρ × σ :=
  match done with
  | (.ok frame, s) => decoder.settle frame s
  | (.error e, s) => (.error e, s)

theorem settled_consumed (bytes : List UInt8) (s : SseFrame × σ) :
    decoder.settled (consumed decoder.pushLine bytes s) =
      decoder.settles (progress (consumeAll decoder.consumeLine (decoder.linesOf bytes) s)) := by
  rw [consumed, consumeAll_pushLine, linesOf, consumeAll_append]
  rcases consumeAll decoder.consumeLine ((splitLines bytes).1.map stripReturn) s with ⟨e | _, s⟩
  · rfl
  · show decoder.finish (splitLines bytes).2 s = decoder.settles (progress _)
    unfold finish
    dsimp only
    rcases consumeAll decoder.consumeLine (decoder.lastLines (splitLines bytes).2) s with ⟨e | _, s⟩
    · rfl
    · rfl

/-- **A decoder consumes the events of the stream** one after the other, and then settles. -/
theorem decode_eq (short : chunks.flatten.length ≤ decoder.maximum) (start : σ) :
    decoder.decode chunks start =
      match consumeAll decoder.step (decoder.eventsOf chunks.flatten) start with
      | (.error e, s) => (.error e, s)
      | (.ok (), s) =>
        decoder.settles ((framed decoder.framer (decoder.linesOf chunks.flatten) .new).2, s) := by
  rw [decode_outcome, pushAll_eq _ _ _ _ short, settled_consumed, consumeAll_framed, eventsOf]
  match consumeAll decoder.step
    (framed decoder.framer (decoder.linesOf chunks.flatten) .new).1 start with
  | (.error e, s) => rfl
  | (.ok (), s) => rfl

theorem framed_error {framer : Framer E} {lines : List (List UInt8)} {frame : SseFrame}
    {e : StreamFailure} (failed : (framed framer lines frame).2 = .error e) :
    ∃ line frame, framer line frame = .error e := by
  induction lines generalizing frame with
  | nil => cases failed
  | cons line lines ih =>
    rw [framed] at failed
    match read : framer line frame with
    | .error e' =>
      rw [read] at failed
      cases failed
      exact ⟨line, frame, read⟩
    | .ok (next, event) =>
      rw [read] at failed
      exact ih failed

/-- The lines that arrive before a stream gets too long. -/
def linesBefore (chunks : List (List UInt8)) : List (List UInt8) :=
  (splitLines (arriving decoder.maximum chunks).flatten).1.map stripReturn

/-- The events that a decoder comes to: all of a stream that is not too long. -/
def eventsTaken (chunks : List (List UInt8)) : List E :=
  if chunks.flatten.length ≤ decoder.maximum then decoder.eventsOf chunks.flatten
  else (framed decoder.framer (decoder.linesBefore chunks) .new).1

/-- A stream that gets too long is not decoded. -/
theorem decode_of_exceeds (long : decoder.maximum < chunks.flatten.length) (start : σ) :
    ∃ e, (decoder.decode chunks start).1 = .error e ∧
      (e = decoder.exceeded ∨
        (consumeAll decoder.step (decoder.eventsTaken chunks) start).1 = .error e ∨
        ∃ line frame, decoder.framer line frame = .error e) := by
  have searched : (⟨[], 0, 0, (SseFrame.new, start)⟩ : LineBuffer (SseFrame × σ)).Searched :=
    ⟨List.not_mem_nil, Nat.le_refl _⟩
  have same := pushAll_of_exceeds decoder.exceeded decoder.pushLine searched
    (by rw [Nat.zero_add]; exact long) (Nat.zero_le _)
  rw [decode_outcome, same, List.nil_append, consumed, consumeAll_pushLine, Nat.sub_zero,
    ← linesBefore, eventsTaken, if_neg (Nat.not_le.2 long)]
  have whole := decoder.consumeAll_framed (decoder.linesBefore chunks) .new start
  rcases done : consumeAll decoder.consumeLine (decoder.linesBefore chunks) (.new, start)
    with ⟨e | _, s⟩
  · refine ⟨e, rfl, .inr ?_⟩
    rw [done] at whole
    rcases events : consumeAll decoder.step
      (framed decoder.framer (decoder.linesBefore chunks) .new).1 start with ⟨e' | _, s⟩
    · rw [events] at whole
      obtain rfl : e = e' := Except.error.inj (congrArg Prod.fst whole)
      exact .inl rfl
    · rw [events] at whole
      exact .inr (framed_error (congrArg Prod.fst whole).symm)
  · exact ⟨decoder.exceeded, rfl, .inl rfl⟩

end SseDecoder

end YHarness.Model

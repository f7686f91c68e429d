/-
# YHarness.Context.ThreadHandoff -- a bounded slice of one Thread for another

`src/context/handoff.rs`: `prepare` cuts the Turns that only the source Thread has to the
budget of a summarizer, binds the slice and its boundary into a digest, and `to_context`
wraps a summary of it as per-Turn context of the target.  The scan is the one a conversation
compactor uses, with its own bounds and errors.
-/
import YHarness.Context.Conversation
import YHarness.Kernel.Fields

namespace YHarness.Context

open YHarness.Lib YHarness.Kernel
open YHarness.Runtime (TurnContextInput)

set_option autoImplicit false

def threadHandoffFormatVersion : Nat := 1
def maxTurnContextBlocks : Nat := 64
def maxTurnContextInputBytes : Nat := 1048379
def maxTurnContextTotalBytes : Nat := 1048576
def maxTurnContextReferenceBytes : Nat := 4096

/-! ## Per-Turn context -/

/-- The fold of `validate_turn_context_inputs`: the references seen and the bytes so far. -/
def turnContextTotal : List (String × String) → Nat → List TurnContextInput →
    Except HarnessError Nat
  | _, total, [] => .ok total
  | seen, total, input :: inputs => do
    validateCapabilityName "Turn context source" input.source
    rejectIf (isBlank input.reference ||
        decide (maxTurnContextReferenceBytes < input.reference.utf8ByteSize) ||
        hasControl input.reference)
      (.invalidConfiguration "Turn context reference must be 1-4096 non-control bytes")
    rejectIf (decide ((input.source, input.reference) ∈ seen))
      (.invalidConfiguration "Turn context contains a duplicate source and reference")
    rejectIf (isBlank input.text || decide (maxTurnContextInputBytes < input.text.utf8ByteSize))
      (.invalidConfiguration "Turn context text must be 1-1048379 bytes")
    let total ← orError (.invalidConfiguration "Turn context size overflow")
      (checkedAdd total input.text.utf8ByteSize)
    turnContextTotal ((input.source, input.reference) :: seen) total inputs

def validateTurnContextInputs (inputs : List TurnContextInput) : Except HarnessError Unit := do
  rejectIf (decide (maxTurnContextBlocks < inputs.length))
    (.invalidConfiguration "Turn context exceeds 64 blocks")
  let total ← turnContextTotal [] 0 inputs
  rejectIf (decide (maxTurnContextTotalBytes < total))
    (.invalidConfiguration "Turn context exceeds 1048576 bytes")

/-! ## Requests -/

structure ThreadHandoffConfig where
  maxInputTurns : Nat
  inputBudgetBytes : Nat

def ThreadHandoffConfig.validate (config : ThreadHandoffConfig) : Except HarnessError Unit := do
  rejectIf (!inRange config.maxInputTurns maxCompactionInputTurns)
    (.invalidConfiguration "Thread handoff max_input_turns must be 1-256")
  rejectIf (!(decide (2 ≤ config.inputBudgetBytes) &&
      decide (config.inputBudgetBytes ≤ maxCompactionInputBytes)))
    (.invalidConfiguration "Thread handoff input_budget_bytes must be 2-8388608")

structure ThreadHandoffRequest where
  formatVersion : Nat
  sourceThreadId : ThreadId
  targetThreadId : ThreadId
  sharedPrefixTurns : Nat
  turns : List ConversationCompactionTurn
  olderSourceTurns : Nat
  sourceSha256 : String

def validateId (kind value : String) : Except HarnessError Unit :=
  rejectIf (value.isEmpty || decide (256 < value.utf8ByteSize) || hasControl value)
    (.invalidConfiguration (kind ++ " identity must be 1-256 non-control bytes"))

def handoffJsonError (kind : String) (maxBytes : Nat) (error : BoundedJsonError) : HarnessError :=
  let detail := match error with
    | .limitExceeded => "exceeds its JSON or byte bound"
    | .cannotEncode => "could not be serialized"
  .invalidConfiguration s!"Thread handoff {kind} {detail}; limit is {maxBytes} bytes"

/-- The loop of `validate_thread`, with the Turns seen so far. -/
def validateThreadTurns (threadId : ThreadId) (role : String) :
    List TurnId → List Turn → Except HarnessError Unit
  | _, [] => .ok ()
  | seen, turn :: turns => do
    validateId "handoff Turn" turn.id
    rejectIf (turn.threadId != threadId) (.invalidConfiguration
      s!"Thread handoff {role} contains a Turn owned by another Thread")
    rejectIf (decide (turn.id ∈ seen)) (.invalidConfiguration
      s!"Thread handoff {role} contains a duplicate Turn")
    rejectIf (turn.status == .running) (.invalidConfiguration
      s!"Thread handoff {role} must have no running Turn")
    validateThreadTurns threadId role (turn.id :: seen) turns

def validateThread (thread : Thread) (role : String) : Except HarnessError Unit := do
  validateId (role ++ " Thread") thread.id
  validateThreadTurns thread.id role [] thread.turns

/-! ## Digests -/

/-- `HandoffSourceBinding`. -/
def handoffSourceBinding (sourceThreadId targetThreadId : ThreadId)
    (sharedPrefixTurns includedSourceTurns : Nat) (turnsSha256 : String)
    (olderSourceTurns : Nat) : Json :=
  .obj [("format_version", .nat threadHandoffFormatVersion),
    ("source_thread_id", .str sourceThreadId), ("target_thread_id", .str targetThreadId),
    ("shared_prefix_turns", .nat sharedPrefixTurns),
    ("included_source_turns", .nat includedSourceTurns), ("turns_sha256", .str turnsSha256),
    ("older_source_turns", .nat olderSourceTurns)]

def handoffSourceSha256 [Sha256] (sourceThreadId targetThreadId : ThreadId)
    (sharedPrefixTurns : Nat) (turns : List ConversationCompactionTurn)
    (olderSourceTurns : Nat) : Except HarnessError String := do
  let turnsSha256 ← (boundedSerializedSha256 (compactionTurnsJson turns)
    maxCompactionInputBytes).mapError (handoffJsonError "source Turns" maxCompactionInputBytes)
  (boundedSerializedSha256 (handoffSourceBinding sourceThreadId targetThreadId sharedPrefixTurns
      turns.length turnsSha256 olderSourceTurns) maxTurnContextReferenceBytes).mapError
    (handoffJsonError "source binding" maxTurnContextReferenceBytes)

/-! ## Preparation -/

/-- An Item as `==` sees it: the two zeros of a payload are one number. -/
def comparedItem (item : Item) : Item :=
  item.rewrite (mapNumbers fun text => if text = "-0.0" then "0.0" else text)

/-- Whether a Turn of the source and a Turn of the target count as the same. -/
def sameTurn (pair : Turn × Turn) : Bool :=
  pair.1.id == pair.2.id && pair.1.status == pair.2.status &&
    pair.1.items.map comparedItem == pair.2.items.map comparedItem

def sharedPrefix (source target : Thread) : Nat :=
  ((source.turns.zip target.turns).takeWhile sameTurn).length

/-- The scan of `prepare`. -/
def handoffScan (config : ThreadHandoffConfig) : WindowScan where
  maxInputTurns := config.maxInputTurns
  inputBudgetBytes := config.inputBudgetBytes
  turnError := handoffJsonError "Turn" maxCompactionInputBytes
  overflow := .invalidConfiguration "Thread handoff input budget overflow"
  newestTooLarge := .invalidConfiguration
    "newest source-only Turn exceeds the Thread handoff input-byte budget"

namespace ThreadHandoffRequest

def prepare [Sha256] (source target : Thread) (config : ThreadHandoffConfig) :
    Except HarnessError (Option ThreadHandoffRequest) := do
  config.validate
  validateThread source "source"
  validateThread target "target"
  rejectIf (source.id == target.id)
    (.invalidConfiguration "Thread handoff source and target must differ")
  let shared := sharedPrefix source target
  let delta := source.turns.drop shared
  let candidateCount := (delta.filter fun turn => hasModelVisibleItems turn.items).length
  if candidateCount = 0 then .ok none
  else do
    let window ← (handoffScan config).run 0 delta.reverse .empty
    let olderSourceTurns := candidateCount - window.turns.length
    let sourceSha256 ← handoffSourceSha256 source.id target.id shared window.turns
      olderSourceTurns
    .ok (some {
      formatVersion := threadHandoffFormatVersion
      sourceThreadId := source.id
      targetThreadId := target.id
      sharedPrefixTurns := shared
      turns := window.turns
      olderSourceTurns
      sourceSha256 })

/-! ## Use -/

/-- The loop of `validate` over the Turns, with the Turns seen so far. -/
def validateTurns : List TurnId → List ConversationCompactionTurn → Except HarnessError Unit
  | _, [] => .ok ()
  | seen, turn :: turns => do
    validateId "handoff Turn" turn.turnId
    rejectIf (decide (turn.turnId ∈ seen))
      (.invalidConfiguration "Thread handoff contains a duplicate Turn")
    rejectIf turn.items.isEmpty (.invalidConfiguration
      "Thread handoff cannot contain an empty model-visible Turn")
    validateConversationItemsJson turn.items
    validateTurns (turn.turnId :: seen) turns

def validate [Sha256] (request : ThreadHandoffRequest) : Except HarnessError Unit := do
  rejectIf (request.formatVersion != threadHandoffFormatVersion)
    (.invalidConfiguration s!"unsupported Thread handoff format {request.formatVersion}")
  validateId "source Thread" request.sourceThreadId
  validateId "target Thread" request.targetThreadId
  rejectIf (request.sourceThreadId == request.targetThreadId)
    (.invalidConfiguration "Thread handoff source and target must differ")
  rejectIf (request.turns.isEmpty || decide (maxCompactionInputTurns < request.turns.length))
    (.invalidConfiguration "Thread handoff must contain 1-256 Turns")
  validateTurns [] request.turns
  let _ ← orError (.invalidConfiguration "Thread handoff source Turn count overflows")
    (checkedAdd request.turns.length request.olderSourceTurns)
  let expected ← handoffSourceSha256 request.sourceThreadId request.targetThreadId
    request.sharedPrefixTurns request.turns request.olderSourceTurns
  rejectIf (request.sourceSha256 != expected) (.invalidConfiguration
    "Thread handoff source digest does not match its bounded input")

/-- The value `reference` encodes. -/
def referenceJson (request : ThreadHandoffRequest) (first last : TurnId) : Json :=
  .obj [("format", .str "y-harness.thread-handoff"), ("version", .nat threadHandoffFormatVersion),
    ("source_thread_id", .str request.sourceThreadId),
    ("target_thread_id", .str request.targetThreadId),
    ("shared_prefix_turns", .nat request.sharedPrefixTurns),
    ("included_source_turns", .nat request.turns.length),
    ("first_included_turn_id", .str first), ("last_included_turn_id", .str last),
    ("older_source_turns", .nat request.olderSourceTurns),
    ("source_sha256", .str request.sourceSha256)]

/-- The encoding is always UTF-8, so reading it back as a string cannot fail. -/
def reference (request : ThreadHandoffRequest) : Except HarnessError String := do
  let first ← orError (.invalidConfiguration "Thread handoff has no first included Turn")
    request.turns.head?
  let last ← orError (.invalidConfiguration "Thread handoff has no last included Turn")
    request.turns.getLast?
  let value := request.referenceJson first.turnId last.turnId
  let _ ← (boundedSerializedSize value maxTurnContextReferenceBytes).mapError
    (handoffJsonError "reference" maxTurnContextReferenceBytes)
  .ok value.text

/-- The text `to_context` wraps around a summary. -/
def wrapped (request : ThreadHandoffRequest) (summary : String) : String :=
  "[Derived Thread handoff: non-authoritative summary of " ++ toString request.turns.length ++
    " source Turns; " ++ toString request.olderSourceTurns ++
    " still-older source Turns are not represented.]\n" ++ summary

def toContext [Sha256] (request : ThreadHandoffRequest) (summary : String) :
    Except HarnessError TurnContextInput := do
  request.validate
  rejectIf (isBlank summary)
    (.invalidConfiguration "Thread handoff summary must not be empty")
  let reference ← request.reference
  let input : TurnContextInput := ⟨"thread-handoff", reference, request.wrapped summary⟩
  validateTurnContextInputs [input]
  .ok input

end ThreadHandoffRequest

end YHarness.Context

/-
# YHarness.Context.Conversation -- the bounded window over a Thread's history

The part of `src/context/mod.rs`, `src/context/compaction.rs` and `src/context/token.rs`
that cuts the Turns of a Thread for a Model: `compile_conversation` keeps the newest whole
Turns within its budgets, and `prepare_conversation_compaction` hands the Turns directly
before them to a compactor.  Counts are `usize` values, so every addition is checked.
-/
import YHarness.Lib.JsonChars
import YHarness.Runtime.Types

namespace YHarness.Context

open YHarness.Lib YHarness.Kernel
open YHarness.Runtime (modelVisibleItem)
open YHarness.State (itemPayload shapeFails)

set_option autoImplicit false

def maxConversationTurns : Nat := 256
def maxConversationBudgetTokens : Nat := 1048576
def maxConversationBudgetBytes : Nat := 8388608
def maxCompactionInputTurns : Nat := 256
def maxCompactionInputBytes : Nat := 8388608
def maxCompactionOutputTokens : Nat := 1048576
def maxCompactionOutputBytes : Nat := 1048576
def maxTokenCount : Nat := 16777216

/-- The largest `usize`. -/
def usizeMax : Nat := 18446744073709551615

/-- `checked_add` of two `usize` values. -/
def checkedAdd (a b : Nat) : Option Nat :=
  if a + b ≤ usizeMax then some (a + b) else none

/-- Whether `n` is in `1..=maximum`. -/
def inRange (n maximum : Nat) : Bool :=
  decide (1 ≤ n) && decide (n ≤ maximum)

/-! ## Configuration -/

structure ConversationContextConfig where
  maxTurns : Nat
  budgetTokens : Nat
  budgetBytes : Nat

def validateConversationConfig (config : ConversationContextConfig) : Except HarnessError Unit :=
  rejectIf (!inRange config.maxTurns maxConversationTurns ||
      !inRange config.budgetTokens maxConversationBudgetTokens ||
      !inRange config.budgetBytes maxConversationBudgetBytes)
    (.invalidConfiguration ("conversation context requires 1-256 Turns, a 1-1048576 token " ++
      "budget, and a 1-8388608 byte budget"))

structure ConversationCompactionConfig where
  compactor : String
  maxInputTurns : Nat
  inputBudgetBytes : Nat
  outputBudgetTokens : Nat
  outputBudgetBytes : Nat

/-- `validate_compaction_config`. -/
def validateCompactionConfig (config : ConversationCompactionConfig) :
    Except HarnessError Unit := do
  validateCapabilityName "conversation compactor" config.compactor
  rejectIf (!inRange config.maxInputTurns maxCompactionInputTurns ||
      !inRange config.inputBudgetBytes maxCompactionInputBytes ||
      !inRange config.outputBudgetTokens maxCompactionOutputTokens ||
      !inRange config.outputBudgetBytes maxCompactionOutputBytes)
    (.invalidConfiguration ("conversation compaction requires 1-256 input Turns, a 1-8388608 " ++
      "input-byte budget, a 1-1048576 output-token budget, and a 1-1048576 output-byte budget"))

/-! ## Token counters -/

/-- What a registered counter answers for one text. -/
inductive CounterAnswer where
  | counted (tokens : Nat)
  | failed
  | panicked

/-- The registered counters by name. -/
abbrev TokenCounterRegistry := List (String × (String → CounterAnswer))

def TokenCounterRegistry.count (counters : TokenCounterRegistry) (name text : String) :
    Except HarnessError Nat :=
  match counters.find? fun entry => entry.1 == name with
  | none => .error (.invalidConfiguration s!"token counter {name} is not registered")
  | some (_, counter) =>
    match counter text with
    | .panicked => .error (.capabilityPanicked .context)
    | .failed => .error (.invalidConfiguration s!"token counter {name} failed")
    | .counted tokens => do
      rejectIf (!inRange tokens maxTokenCount) (.invalidConfiguration
        s!"token counter {name} returned a count outside 1-{maxTokenCount}")
      .ok tokens

/-! ## Model-visible Items -/

def isModelVisible (item : Item) : Bool :=
  match item.kind with
  | .userMessage _ | .steeringApplied _ _ | .assistantMessage _ _ _ _
  | .providerContinuation _ _ _ | .toolCall _ _ _ _ _ _ | .toolResult _ _ _ _
  | .verificationResult _ _ _ _ _ => true
  | _ => false

def hasModelVisibleItems (items : List Item) : Bool := items.any isModelVisible

def modelVisibleItems (items : List Item) : List Item := items.filterMap modelVisibleItem

def validateContinuation (item : Item) : Except HarnessError Unit :=
  match item.kind with
  | .providerContinuation _ _ continuation =>
    continuation.validate.mapError fun error => .invalidConfiguration error.display
  | _ => .ok ()

def validateConversationItemJson (item : Item) : Except HarnessError Unit := do
  validateContinuation item
  rejectIf ((itemPayload item).any shapeFails) (.invalidConfiguration
    "conversation Item JSON exceeds the supported depth or node count")

def validateConversationItemsJson (items : List Item) : Except HarnessError Unit :=
  checkAll validateConversationItemJson items

def contextJsonError (kind : String) (maximum : Nat) : BoundedJsonError → HarnessError
  | .limitExceeded => .invalidConfiguration s!"{kind} exceeds {maximum} encoded bytes"
  | .cannotEncode => .invalidConfiguration s!"cannot encode {kind}"

/-! ## One Turn for a summarizer -/

structure ConversationCompactionTurn where
  turnId : TurnId
  items : List Item

def ConversationCompactionTurn.toJson (turn : ConversationCompactionTurn) : Json :=
  .obj [("turn_id", .str turn.turnId), ("items", .arr (turn.items.map Item.toJson))]

def compactionTurnsJson (turns : List ConversationCompactionTurn) : Json :=
  .arr (turns.map ConversationCompactionTurn.toJson)

/-- The Turns a backward scan has collected, and the encoded length of their list. -/
structure CompactionWindow where
  encodedBytes : Nat
  turns : List ConversationCompactionTurn

def CompactionWindow.empty : CompactionWindow := ⟨2, []⟩

/-- What distinguishes the two backward scans over whole Turns: their bounds and the errors
they report. -/
structure WindowScan where
  maxInputTurns : Nat
  inputBudgetBytes : Nat
  turnError : BoundedJsonError → HarnessError
  overflow : HarnessError
  newestTooLarge : HarnessError

/-- The body of both scans for one Turn with model-visible Items: `none` is the `break`. -/
def WindowScan.offer (scan : WindowScan) (turn : Turn) (window : CompactionWindow) :
    Except HarnessError (Option CompactionWindow) :=
  if scan.maxInputTurns ≤ window.turns.length then .ok none
  else do
    let candidate : ConversationCompactionTurn := ⟨turn.id, modelVisibleItems turn.items⟩
    validateConversationItemsJson candidate.items
    let candidateBytes ← (boundedSerializedSize candidate.toJson maxCompactionInputBytes).mapError
      scan.turnError
    let separatorBytes := if window.turns.isEmpty then 0 else 1
    let nextBytes ← orError scan.overflow
      ((checkedAdd window.encodedBytes separatorBytes).bind (checkedAdd · candidateBytes))
    if scan.inputBudgetBytes < nextBytes then
      if window.turns.isEmpty then .error scan.newestTooLarge else .ok none
    else .ok (some ⟨nextBytes, candidate :: window.turns⟩)

/-- The loop of both scans, newest Turn first: Turns without model-visible Items are passed
over, and the first `skip` others as well. -/
def WindowScan.run (scan : WindowScan) : Nat → List Turn → CompactionWindow →
    Except HarnessError CompactionWindow
  | _, [], window => .ok window
  | skip, turn :: earlier, window =>
    if (modelVisibleItems turn.items).isEmpty then scan.run skip earlier window
    else match skip with
      | skip + 1 => scan.run skip earlier window
      | 0 => do
        match ← scan.offer turn window with
        | none => .ok window
        | some next => scan.run 0 earlier next

/-! ## The engine -/

/-- The part of the Context Engine that compiles a conversation. -/
structure ContextEngine where
  conversation : ConversationContextConfig
  conversationCompaction : Option ConversationCompactionConfig
  tokenCounter : Option String
  tokenCounters : TokenCounterRegistry

structure PreparedConversationCompaction where
  threadId : ThreadId
  turns : List ConversationCompactionTurn
  olderOmittedTurns : Nat
  retainedTurns : List TurnId
  sourceSha256 : String

structure ConversationContext where
  items : List Item
  includedTurns : List TurnId
  droppedTurns : Nat
  estimatedTokens : Nat
  serializedBytes : Nat
  preparedCompaction : Option PreparedConversationCompaction

/-- The Turns `compile_conversation` has selected, oldest first, and what they cost. -/
structure Selection where
  turns : List (TurnId × List Item)
  estimatedTokens : Nat
  serializedBytes : Nat

def Selection.empty : Selection := ⟨[], 0, 0⟩

namespace ContextEngine

def countTextTokens (engine : ContextEngine) (text : String) (fallback : Nat) :
    Except HarnessError Nat :=
  match engine.tokenCounter with
  | none => .ok fallback
  | some counter => engine.tokenCounters.count counter text

/-- One step of the fold of `budget_conversation_items`. -/
def budgetItem (engine : ContextEngine) (sums : Nat × Nat) (item : Item) :
    Except HarnessError (Nat × Nat) := do
  validateConversationItemJson item
  let _ ← (boundedSerializedSize item.toJson maxConversationBudgetBytes).mapError
    (contextJsonError "conversation Item" maxConversationBudgetBytes)
  let encoded := item.toJson.text
  let itemTokens ← engine.countTextTokens encoded encoded.utf8ByteSize
  let tokens ← orError (.invalidConfiguration "conversation token budget overflow")
    (checkedAdd sums.1 itemTokens)
  let bytes ← orError (.invalidConfiguration "conversation byte budget overflow")
    (checkedAdd sums.2 encoded.utf8ByteSize)
  .ok (tokens, bytes)

def budgetConversationItems (engine : ContextEngine) (items : List Item) :
    Except HarnessError (Nat × Nat) :=
  items.foldlM engine.budgetItem (0, 0)

/-- The body of the loop of `compile_conversation` for one Turn with model-visible Items:
`none` is a `break`. -/
def offer (engine : ContextEngine) (turn : Turn) (selection : Selection) :
    Except HarnessError (Option Selection) :=
  let items := modelVisibleItems turn.items
  if engine.conversation.maxTurns ≤ selection.turns.length then .ok none
  else do
    let (candidateTokens, candidateBytes) ← engine.budgetConversationItems items
    let nextTotal ← orError (.invalidConfiguration "conversation budget overflow")
      (checkedAdd selection.estimatedTokens candidateTokens)
    if engine.conversation.budgetTokens < nextTotal then .ok none
    else do
      let nextBytes ← orError (.invalidConfiguration "conversation byte budget overflow")
        (checkedAdd selection.serializedBytes candidateBytes)
      if engine.conversation.budgetBytes < nextBytes then .ok none
      else .ok (some ⟨(turn.id, items) :: selection.turns, nextTotal, nextBytes⟩)

/-- The loop of `compile_conversation`, newest Turn first. -/
def select (engine : ContextEngine) : List Turn → Selection → Except HarnessError Selection
  | [], selection => .ok selection
  | turn :: earlier, selection =>
    if (modelVisibleItems turn.items).isEmpty then engine.select earlier selection
    else do
      match ← engine.offer turn selection with
      | none => .ok selection
      | some next => engine.select earlier next

/-- The scan of `prepare_conversation_compaction`. -/
def compactionScan (config : ConversationCompactionConfig) : WindowScan where
  maxInputTurns := config.maxInputTurns
  inputBudgetBytes := config.inputBudgetBytes
  turnError := contextJsonError "conversation compaction input" maxCompactionInputBytes
  overflow := .invalidConfiguration "conversation compaction input budget overflow"
  newestTooLarge := .invalidConfiguration ("newest omitted Turn exceeds conversation compactor " ++
    config.compactor ++ " input-byte budget")

def prepareConversationCompaction [Sha256] (engine : ContextEngine) (thread : Thread)
    (retainedTurns droppedTurns : Nat) (retainedTurnIds : List TurnId) :
    Except HarnessError (Option PreparedConversationCompaction) :=
  match engine.conversationCompaction with
  | none => .ok none
  | some config =>
    if droppedTurns = 0 then .ok none
    else do
      let window ← (compactionScan config).run retainedTurns thread.turns.reverse .empty
      let sourceSha256 ← (boundedSerializedSha256 (compactionTurnsJson window.turns)
        config.inputBudgetBytes).mapError
          (contextJsonError "conversation compaction source" config.inputBudgetBytes)
      .ok (some {
        threadId := thread.id
        turns := window.turns
        olderOmittedTurns := droppedTurns - window.turns.length
        retainedTurns := retainedTurnIds
        sourceSha256 })

def compileConversation [Sha256] (engine : ContextEngine) (thread : Thread) :
    Except HarnessError ConversationContext := do
  validateConversationConfig engine.conversation
  checkSome validateCompactionConfig engine.conversationCompaction
  let candidateCount := (thread.turns.filter fun turn => hasModelVisibleItems turn.items).length
  let selection ← engine.select thread.turns.reverse .empty
  let includedTurns := selection.turns.map (·.1)
  let droppedTurns := candidateCount - includedTurns.length
  let preparedCompaction ← engine.prepareConversationCompaction thread includedTurns.length
    droppedTurns includedTurns
  .ok {
    items := selection.turns.flatMap (·.2)
    includedTurns
    droppedTurns
    estimatedTokens := selection.estimatedTokens
    serializedBytes := selection.serializedBytes
    preparedCompaction }

end ContextEngine

end YHarness.Context

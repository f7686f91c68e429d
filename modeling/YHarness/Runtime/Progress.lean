/-
# YHarness.Runtime.Progress -- no-progress detection

`src/runtime/progress.rs`: the reducer over the ordered Items of a Turn that
stops a loop which repeats an exact cycle of Tool calls with a failed result.
It keeps digests of what it saw, and the place it has read to.
-/
import YHarness.Runtime.Types

namespace YHarness.Runtime

open YHarness.Lib YHarness.Kernel

set_option autoImplicit false

def maxProgressValueBytes : Nat := 1052672
def maxProgressCycleBytes : Nat := 16384
def maxFailureCyclePeriod : Nat := 4

structure PendingCall where
  callId : String
  proposalSha256 : String
  resultSha256 : Option String
  isError : Option Bool

/-- The call id is skipped: fresh ids do not hide a repeated cycle. -/
def PendingCall.toJson (call : PendingCall) : Json :=
  .obj [("proposal_sha256", .str call.proposalSha256),
    ("result_sha256", nullable .str call.resultSha256),
    ("is_error", nullable .bool call.isError)]

structure PendingCycle where
  batchId : Option ToolCallBatchId
  expectedCalls : Nat
  calls : List PendingCall

structure ProgressGovernor where
  policy : ProgressPolicy
  cursor : Nat
  pending : Option PendingCycle
  failedCycles : List String

inductive ProgressVerdict where
  | continue
  | stop (cyclePeriod repetitions : Nat)
deriving DecidableEq

/-- `digest_progress_value`. -/
def digestProgressValue [Sha256] (value : Json) (maximum : Nat) : Except HarnessError String :=
  (boundedSerializedSha256 value maximum).mapError fun _ =>
    .state "Progress Governor could not digest bounded Tool evidence"

/-- `repeated_suffix_period`. -/
def repeatedSuffixPeriod (history : List String) (repetitions : Nat) : Option Nat :=
  ((List.range maxFailureCyclePeriod).map (· + 1)).find? fun period =>
    let required := period * repetitions
    let suffix := history.drop (history.length - required)
    decide (required ≤ history.length) &&
      ((List.range required).drop period).all fun index =>
        suffix[index]? == suffix[index % period]?

namespace ProgressGovernor

def requireNoPendingCycle (governor : ProgressGovernor) : Except HarnessError Unit :=
  rejectIf governor.pending.isSome
    (.state ("Progress Governor observed a new Tool decision before the previous decision " ++
      "settled"))

variable [Sha256]

/-- `observe_call`. -/
def observeCall (governor : ProgressGovernor) (callId name : String) (input : Json)
    (batch : Option ToolCallBatch) : Except HarnessError ProgressGovernor := do
  let proposalSha256 ← digestProgressValue (.obj [("name", .str name), ("input", input)])
    maxProgressValueBytes
  let call : PendingCall := ⟨callId, proposalSha256, none, none⟩
  match batch with
  | none => do
    governor.requireNoPendingCycle
    .ok { governor with pending := some ⟨none, 1, [call]⟩ }
  | some batch =>
    if batch.index = 0 then do
      governor.requireNoPendingCycle
      .ok { governor with pending := some ⟨some batch.id, batch.size, [call]⟩ }
    else do
      let pending ← orError
        (.state ("Progress Governor observed a non-initial Tool batch member without its " ++
          "batch")) governor.pending
      rejectIf (pending.batchId != some batch.id || pending.expectedCalls != batch.size ||
          pending.calls.length != batch.index)
        (.state "Progress Governor observed inconsistent Tool batch evidence")
      .ok { governor with pending := some { pending with calls := pending.calls ++ [call] } }

/-- The calls of a cycle with one result settled. -/
def settleCall (callId resultSha256 : String) (isError : Bool) :
    List PendingCall → Except HarnessError (List PendingCall)
  | [] => .error
      (.state "Progress Governor observed a Tool result for a different decision")
  | call :: calls =>
    if call.callId = callId then do
      rejectIf call.resultSha256.isSome
        (.state "Progress Governor observed duplicate Tool-result evidence")
      .ok ({ call with resultSha256 := some resultSha256, isError := some isError } :: calls)
    else do
      let calls ← settleCall callId resultSha256 isError calls
      .ok (call :: calls)

/-- `observe_result`, with the failed cycles that are kept of all. -/
def observeResultKeeping (kept : List String → List String) (governor : ProgressGovernor)
    (callId : String) (output : Json) (isError : Bool) : Except HarnessError ProgressGovernor := do
  let resultSha256 ← digestProgressValue
    (.obj [("is_error", .bool isError), ("output", output)]) maxProgressValueBytes
  let pending ← orError
    (.state "Progress Governor observed a Tool result without a pending decision")
    governor.pending
  let calls ← settleCall callId resultSha256 isError pending.calls
  if calls.length != pending.expectedCalls ||
      calls.any (fun call => call.resultSha256.isNone) then
    .ok { governor with pending := some { pending with calls } }
  else if calls.all (fun call => call.isError == some false) then
    .ok { governor with pending := none, failedCycles := [] }
  else do
    let cycleSha256 ← digestProgressValue
      (.obj [("calls", .arr (calls.map PendingCall.toJson))]) maxProgressCycleBytes
    .ok { governor with
      pending := none
      failedCycles := kept (governor.failedCycles ++ [cycleSha256]) }

def observeResult (governor : ProgressGovernor) (callId : String) (output : Json)
    (isError : Bool) : Except HarnessError ProgressGovernor :=
  let retained := maxFailureCyclePeriod * governor.policy.maxFailureCycleRepetitions
  governor.observeResultKeeping (fun failedCycles =>
    failedCycles.drop (failedCycles.length - retained)) callId output isError

/-- `observe`. -/
def observe (governor : ProgressGovernor) (item : Item) : Except HarnessError ProgressGovernor :=
  match item.kind with
  | .userMessage _ | .steeringApplied _ _ | .assistantMessage _ _ _ _ => do
    governor.requireNoPendingCycle
    .ok { governor with pending := none, failedCycles := [] }
  | .verificationResult _ _ _ _ _ => do
    governor.requireNoPendingCycle
    .ok { governor with failedCycles := [] }
  | .toolCall _ _ callId name input batch => governor.observeCall callId name input batch
  | .toolResult callId output isError _ => governor.observeResult callId output isError
  | _ => .ok governor

def verdict (governor : ProgressGovernor) : ProgressVerdict :=
  match repeatedSuffixPeriod governor.failedCycles governor.policy.maxFailureCycleRepetitions with
  | none => .continue
  | some period => .stop period governor.policy.maxFailureCycleRepetitions

/-- `advance`: observe the Items past the cursor. -/
def advance (governor : ProgressGovernor) (items : List Item) :
    Except HarnessError (ProgressGovernor × ProgressVerdict) := do
  rejectIf (decide (items.length < governor.cursor))
    (.state "Progress Governor item cursor moved beyond the Turn")
  let observed ← (items.drop governor.cursor).foldlM observe governor
  .ok ({ observed with cursor := items.length }, observed.verdict)

/-- `from_items`. -/
def fromItems (policy : ProgressPolicy) (items : List Item) :
    Except HarnessError ProgressGovernor := do
  let (governor, _) ← advance ⟨policy, 0, none, []⟩ items
  .ok governor

end ProgressGovernor

end YHarness.Runtime

/-
# YHarness.Runtime.ProgressReplay -- the governor is a fold over the journal

`advance` folds `observe` over the Items past the cursor and keeps the last failed
cycles only.  `observeComplete` is the same reducer that forgets none and has no cursor;
the governor is its `view` at every Item (`observe_view`).  Advancing batch by batch is
therefore one fold over all Items, wherever they are cut, and the verdict, which reads no
further back than the window, is that of all failed cycles since the last reset.
-/
import Mathlib.Data.List.DropRight
import YHarness.Runtime.Progress

namespace YHarness.Runtime

open YHarness.Lib YHarness.Kernel

set_option autoImplicit false

/-! ## The window -/

section Window

variable {α : Type}

theorem length_rtake (n : Nat) (history : List α) :
    (history.rtake n).length = min n history.length := by
  rw [List.rtake, List.length_drop]
  omega

/-- The last `m` of the last `n` elements. -/
theorem rtake_window {m n : Nat} (shorter : m ≤ n) (history : List α) :
    (history.rtake n).rtake m = history.rtake m := by
  simp only [List.rtake_eq_reverse_take_reverse, List.reverse_reverse, List.take_take]
  rw [Nat.min_eq_left shorter]

/-- A window that is cut after every element holds the last ones of all. -/
theorem rtake_window_concat (n : Nat) (history : List α) (last : α) :
    (history.rtake n ++ [last]).rtake n = (history ++ [last]).rtake n := by
  cases n with
  | zero => simp
  | succ n => rw [List.rtake_concat_succ, List.rtake_concat_succ, rtake_window (Nat.le_succ n)]

end Window

/-- A repeated suffix is found within `maxFailureCyclePeriod * repetitions` cycles. -/
theorem repeatedSuffixPeriod_rtake (history : List String) (repetitions : Nat) :
    repeatedSuffixPeriod (history.rtake (maxFailureCyclePeriod * repetitions)) repetitions =
      repeatedSuffixPeriod history repetitions := by
  unfold repeatedSuffixPeriod
  generalize window : maxFailureCyclePeriod * repetitions = retained
  have same : ∀ period ∈ (List.range maxFailureCyclePeriod).map (· + 1),
      period * repetitions ≤ retained := by
    intro period member
    obtain ⟨index, inside, rfl⟩ := List.mem_map.1 member
    rw [← window]
    exact Nat.mul_le_mul_right _ (List.mem_range.1 inside)
  revert same
  generalize (List.range maxFailureCyclePeriod).map (· + 1) = periods
  intro same
  induction periods with
  | nil => rfl
  | cons period periods ih =>
    have required := same period List.mem_cons_self
    have suffix : (history.rtake retained).drop
        ((history.rtake retained).length - period * repetitions) =
          history.drop (history.length - period * repetitions) := rtake_window required history
    have long : decide (period * repetitions ≤ (history.rtake retained).length) =
        decide (period * repetitions ≤ history.length) := by
      rw [decide_eq_decide, length_rtake]
      omega
    simp only [List.find?_cons, suffix, long]
    rw [ih fun other member => same other (List.mem_cons_of_mem _ member)]

namespace ProgressGovernor

/-- The governor that has read to `cursor`, of the complete reducer. -/
def view (cursor : Nat) (complete : ProgressGovernor) : ProgressGovernor :=
  { complete with
    cursor
    failedCycles := complete.failedCycles.rtake
      (maxFailureCyclePeriod * complete.policy.maxFailureCycleRepetitions) }

theorem verdict_view (cursor : Nat) (complete : ProgressGovernor) :
    (complete.view cursor).verdict = complete.verdict := by
  unfold verdict
  rw [show (complete.view cursor).failedCycles = complete.failedCycles.rtake _ from rfl,
    show (complete.view cursor).policy = complete.policy from rfl, repeatedSuffixPeriod_rtake]

variable [Sha256]

/-! ## The complete reducer -/

/-- `observe_result` without the window: no failed cycle is dropped. -/
def observeResultComplete (governor : ProgressGovernor) (callId : String) (output : Json)
    (isError : Bool) : Except HarnessError ProgressGovernor :=
  governor.observeResultKeeping id callId output isError

/-- `observe` without the window. -/
def observeComplete (governor : ProgressGovernor) (item : Item) :
    Except HarnessError ProgressGovernor :=
  match item.kind with
  | .toolResult callId output isError _ => governor.observeResultComplete callId output isError
  | _ => governor.observe item

/-- The reducer over all of `items`, with every failed cycle since the last reset. -/
def completeItems (policy : ProgressPolicy) (items : List Item) :
    Except HarnessError ProgressGovernor :=
  items.foldlM observeComplete ⟨policy, 0, none, []⟩

/-! ## The governor is a view of it -/

theorem observeCall_view (cursor : Nat) (complete : ProgressGovernor) (callId name : String)
    (input : Json) (batch : Option ToolCallBatch) :
    (complete.view cursor).observeCall callId name input batch =
      (complete.observeCall callId name input batch).map (view cursor) := by
  unfold observeCall
  cases digestProgressValue (.obj [("name", .str name), ("input", input)])
    maxProgressValueBytes with
  | error error => rfl
  | ok proposalSha256 =>
    have same : (complete.view cursor).requireNoPendingCycle = complete.requireNoPendingCycle := rfl
    have held : (complete.view cursor).pending = complete.pending := rfl
    simp only [ok_bind]
    cases batch with
    | none =>
      dsimp only
      rw [same]
      cases complete.requireNoPendingCycle <;> rfl
    | some batch =>
      dsimp only
      split
      · rw [same]
        cases complete.requireNoPendingCycle <;> rfl
      · rw [held]
        cases complete.pending with
        | none => rfl
        | some pending =>
          simp only [orError, ok_bind]
          cases rejectIf (pending.batchId != some batch.id ||
            pending.expectedCalls != batch.size || pending.calls.length != batch.index)
            (HarnessError.state
              "Progress Governor observed inconsistent Tool batch evidence") <;> rfl

theorem observeResult_view (cursor : Nat) (complete : ProgressGovernor) (callId : String)
    (output : Json) (isError : Bool) :
    (complete.view cursor).observeResult callId output isError =
      (complete.observeResultComplete callId output isError).map (view cursor) := by
  unfold observeResult observeResultComplete observeResultKeeping
  have held : (complete.view cursor).pending = complete.pending := rfl
  rw [held]
  cases digestProgressValue (.obj [("is_error", .bool isError), ("output", output)])
    maxProgressValueBytes with
  | error error => rfl
  | ok resultSha256 =>
    simp only [ok_bind]
    cases complete.pending with
    | none => rfl
    | some pending =>
      simp only [orError, ok_bind]
      cases settleCall callId resultSha256 isError pending.calls with
      | error error => rfl
      | ok calls =>
        simp only [ok_bind]
        split
        · rfl
        · split
          · simp only [Except.map, view, List.rtake_nil]
          · cases digestProgressValue (.obj [("calls", .arr (calls.map PendingCall.toJson))])
              maxProgressCycleBytes with
            | error error => rfl
            | ok cycleSha256 =>
              simp only [ok_bind, Except.map]
              rw [← List.rtake]
              simp only [view, rtake_window_concat, id]

/-- **One Item.** -/
theorem observe_view (cursor : Nat) (complete : ProgressGovernor) (item : Item) :
    (complete.view cursor).observe item = (complete.observeComplete item).map (view cursor) := by
  have same : (complete.view cursor).requireNoPendingCycle = complete.requireNoPendingCycle := rfl
  have cleared : ∀ pending, view cursor { complete with pending, failedCycles := [] } =
      { complete.view cursor with pending, failedCycles := [] } := by
    intro pending
    simp only [view, List.rtake_nil]
  unfold observeComplete observe
  cases item.kind with
  | toolCall _ _ callId name input batch => exact observeCall_view ..
  | toolResult callId output isError _ => exact observeResult_view ..
  | userMessage _ | steeringApplied _ _ | assistantMessage _ _ _ _ =>
    dsimp only
    rw [same]
    cases complete.requireNoPendingCycle with
    | error error => rfl
    | ok _ => exact congrArg Except.ok (cleared none).symm
  | verificationResult _ _ _ _ _ =>
    dsimp only
    rw [same]
    cases complete.requireNoPendingCycle with
    | error error => rfl
    | ok _ => exact congrArg Except.ok (cleared complete.pending).symm
  | _ => rfl

/-- Any number of Items. -/
theorem foldlM_observe_view (cursor : Nat) (items : List Item) (complete : ProgressGovernor) :
    items.foldlM observe (complete.view cursor) =
      (items.foldlM observeComplete complete).map (view cursor) := by
  induction items generalizing complete with
  | nil => rfl
  | cons item items ih =>
    rw [List.foldlM_cons, List.foldlM_cons, observe_view]
    cases complete.observeComplete item with
    | error error => rfl
    | ok next => exact ih next

/-- **Advancing** over the Items that are new. -/
theorem advance_view (seen batch : List Item) (complete : ProgressGovernor) :
    (complete.view seen.length).advance (seen ++ batch) =
      (batch.foldlM observeComplete complete).map fun next =>
        (next.view (seen ++ batch).length, next.verdict) := by
  have reached : decide ((seen ++ batch).length < (complete.view seen.length).cursor) = false := by
    rw [decide_eq_false_iff_not, List.length_append]
    show ¬ seen.length + batch.length < seen.length
    omega
  have fresh : (seen ++ batch).drop (complete.view seen.length).cursor = batch :=
    List.drop_left ..
  rw [advance, reached, rejectIf_false, ok_bind, fresh, foldlM_observe_view]
  cases batch.foldlM observeComplete complete with
  | error error => rfl
  | ok next =>
    show Except.ok (_, (next.view seen.length).verdict) = Except.ok (_, next.verdict)
    rw [verdict_view]
    rfl

theorem fromItems_eq (policy : ProgressPolicy) (items : List Item) :
    fromItems policy items = (completeItems policy items).map (view items.length) := by
  have started : (⟨policy, 0, none, []⟩ : ProgressGovernor) =
      view (List.length ([] : List Item)) ⟨policy, 0, none, []⟩ := by
    simp only [view, List.rtake_nil, List.length_nil]
  have advanced := advance_view [] items ⟨policy, 0, none, []⟩
  rw [← started, List.nil_append] at advanced
  rw [fromItems, advanced, completeItems]
  cases items.foldlM observeComplete ⟨policy, 0, none, []⟩ <;> rfl

/-! ## Batches -/

/-- The Items seen and the governor, after one more batch of Items. -/
def advanceBatch (seen : List Item × ProgressGovernor) (batch : List Item) :
    Except HarnessError (List Item × ProgressGovernor) := do
  let items := seen.1 ++ batch
  let (governor, _) ← seen.2.advance items
  .ok (items, governor)

/-- A governor made of the first batch of the Items and advanced over the others. -/
def replayBatches (policy : ProgressPolicy) (first : List Item) (rest : List (List Item)) :
    Except HarnessError ProgressGovernor := do
  let governor ← fromItems policy first
  let (_, governor) ← rest.foldlM advanceBatch (first, governor)
  .ok governor

/-- **Any batches** after the Items seen are one fold over all of them. -/
theorem foldlM_advanceBatch (batches : List (List Item)) (seen : List Item)
    (complete : ProgressGovernor) :
    batches.foldlM advanceBatch (seen, complete.view seen.length) =
      (batches.flatten.foldlM observeComplete complete).map fun next =>
        (seen ++ batches.flatten, next.view (seen ++ batches.flatten).length) := by
  induction batches generalizing seen complete with
  | nil =>
    rw [List.flatten_nil, List.append_nil]
    rfl
  | cons batch batches ih =>
    rw [List.foldlM_cons, List.flatten_cons, List.foldlM_append, advanceBatch]
    dsimp only
    rw [advance_view]
    cases batch.foldlM observeComplete complete with
    | error error => rfl
    | ok next =>
      rw [← List.append_assoc]
      exact ih (seen ++ batch) next

/-- **Replay.**  Wherever the journal is cut, the governor is that of the whole journal, and
its verdict is that of all failed cycles since the last reset. -/
theorem progress_replay (policy : ProgressPolicy) :
    (∀ first rest, replayBatches policy first rest = fromItems policy (first ++ rest.flatten)) ∧
      ∀ items, (fromItems policy items).map verdict = (completeItems policy items).map verdict := by
  constructor
  · intro first rest
    rw [replayBatches, fromItems_eq, fromItems_eq, completeItems, completeItems, List.foldlM_append]
    cases first.foldlM observeComplete ⟨policy, 0, none, []⟩ with
    | error error => rfl
    | ok next =>
      show ((rest.foldlM advanceBatch (first, next.view first.length)) >>= _) = _
      rw [foldlM_advanceBatch]
      show _ = Except.map _ (rest.flatten.foldlM observeComplete next)
      cases rest.flatten.foldlM observeComplete next <;> rfl
  · intro items
    rw [fromItems_eq]
    cases completeItems policy items with
    | error error => rfl
    | ok next => exact congrArg Except.ok (verdict_view ..)

end ProgressGovernor

end YHarness.Runtime

/-
# YHarness.Runtime.LoopDetection -- the verdict is exact

`Seen` reads the same Items as the governor and keeps the calls and results themselves
where the governor keeps digests; a settled failure has no call id.  The governor holds
the fingerprints of what was seen (`Reads`).  As far as SHA-256 tells those apart, its
verdict is Stop exactly when the failures since the last reset end in the configured
number of copies of a block of at most four, and other call ids change nothing
(`loop_detection_exact`).
-/
import YHarness.Lib.Periods
import YHarness.Completion.Binding
import YHarness.Runtime.ProgressReplay

namespace YHarness.Runtime

open YHarness.Lib YHarness.Kernel

set_option autoImplicit false

/-- `repeated_suffix_period` finds the least period. -/
theorem repeatedSuffixPeriod_eq_some {history : List String} {repetitions period : Nat} :
    repeatedSuffixPeriod history repetitions = some period ↔
      1 ≤ period ∧ period ≤ maxFailureCyclePeriod ∧ Repeats repetitions period history ∧
        ∀ shorter, 1 ≤ shorter → shorter < period → ¬ Repeats repetitions shorter history := by
  unfold repeatedSuffixPeriod
  generalize tested : (fun period => _) = test
  have tests : ∀ period, test period = true ↔ Repeats repetitions period history := by
    intro period
    rw [← tested]
    simp only [Repeats, Bool.and_eq_true, decide_eq_true_eq, List.all_eq_true, beq_iff_eq,
      List.range_eq_range', List.drop_range', List.mem_range'_1]
    refine and_congr_right fun _ => forall_congr' fun index => ?_
    constructor
    · intro same after inside
      exact same (by omega)
    · intro same between
      exact same (by omega) (by omega)
  rw [List.find?_map, Option.map_eq_some_iff]
  simp only [List.find?_range_eq_some, Function.comp_apply, List.mem_range, Bool.not_eq_true',
    ← Bool.not_eq_true, tests]
  constructor
  · rintro ⟨index, ⟨here, inside, before⟩, rfl⟩
    refine ⟨by omega, by omega, here, fun shorter positive less => ?_⟩
    have earlier := before (shorter - 1) (by omega)
    rwa [Nat.sub_add_cancel positive] at earlier
  · rintro ⟨positive, short, here, before⟩
    refine ⟨period - 1, ⟨?_, by omega, fun index less => before _ (by omega) (by omega)⟩, by omega⟩
    rwa [Nat.sub_add_cancel positive]

/-! ## What was seen -/

/-- A call of the decision under way, with its result once it is in. -/
structure SeenCall where
  callId : String
  name : String
  input : Json
  result : Option (Bool × Json)

/-- A call of a settled failure. -/
structure FailedCall where
  name : String
  input : Json
  isError : Bool
  output : Json

structure Seen where
  calls : List SeenCall
  size : Nat
  failures : List (List FailedCall)

def SeenCall.settled (call : SeenCall) : Option FailedCall :=
  call.result.map fun result => ⟨call.name, call.input, result.1, result.2⟩

/-- The first call of the id gets the result. -/
def settleSeen (callId : String) (result : Bool × Json) : List SeenCall → List SeenCall
  | [] => []
  | call :: calls =>
    if call.callId = callId then { call with result := some result } :: calls
    else call :: settleSeen callId result calls

namespace Seen

def call (seen : Seen) (callId name : String) (input : Json) : Option ToolCallBatch → Seen
  | none => { seen with calls := [⟨callId, name, input, none⟩], size := 1 }
  | some batch =>
    if batch.index = 0 then
      { seen with calls := [⟨callId, name, input, none⟩], size := batch.size }
    else { seen with calls := seen.calls ++ [⟨callId, name, input, none⟩] }

/-- A decision is over with the last result: a failure adds to the failures, a success
ends them. -/
def result (seen : Seen) (callId : String) (output : Json) (isError : Bool) : Seen :=
  let calls := settleSeen callId (isError, output) seen.calls
  if calls.length != seen.size || calls.any (·.result.isNone) then { seen with calls }
  else
    let failure := calls.filterMap SeenCall.settled
    if failure.all (fun call => !call.isError) then { seen with calls := [], failures := [] }
    else { seen with calls := [], failures := seen.failures ++ [failure] }

def observe (seen : Seen) (item : Item) : Seen :=
  match item.kind with
  | .userMessage _ | .steeringApplied _ _ | .assistantMessage _ _ _ _ =>
    { seen with calls := [], failures := [] }
  | .verificationResult _ _ _ _ _ => { seen with failures := [] }
  | .toolCall _ _ callId name input batch => seen.call callId name input batch
  | .toolResult callId output isError _ => seen.result callId output isError
  | _ => seen

end Seen

/-- The failed decisions since the last reset. -/
def failuresSinceReset (items : List Item) : List (List FailedCall) :=
  (items.foldl Seen.observe ⟨[], 0, []⟩).failures

/-! ## Fingerprints -/

/-- `ToolProposal`. -/
def proposalJson (name : String) (input : Json) : Json :=
  .obj [("name", .str name), ("input", input)]

/-- `ToolObservation`. -/
def observationJson (isError : Bool) (output : Json) : Json :=
  .obj [("is_error", .bool isError), ("output", output)]

section Fingerprints

variable [Sha256]

def SeenCall.fingerprint (call : SeenCall) : PendingCall :=
  ⟨call.callId, Sha256.digest (.json (proposalJson call.name call.input)),
    call.result.map fun result => Sha256.digest (.json (observationJson result.1 result.2)),
    call.result.map (·.1)⟩

def FailedCall.toJson (call : FailedCall) : Json :=
  .obj [("proposal_sha256", .str (Sha256.digest (.json (proposalJson call.name call.input)))),
    ("result_sha256", .str (Sha256.digest (.json (observationJson call.isError call.output)))),
    ("is_error", .bool call.isError)]

/-- `CompletedCycle`. -/
def failureJson (failure : List FailedCall) : Json :=
  .obj [("calls", .arr (failure.map FailedCall.toJson))]

def failureSha256 (failure : List FailedCall) : String :=
  Sha256.digest (.json (failureJson failure))

/-- Everything that is hashed for these failures. -/
def fingerprintInputs (failures : List (List FailedCall)) : List HashInput :=
  failures.flatMap fun failure => .json (failureJson failure) :: failure.flatMap fun call =>
    [.json (proposalJson call.name call.input), .json (observationJson call.isError call.output)]

theorem FailedCall.eq_of_toJson {inputs : List HashInput} (apart : TellsApart inputs)
    {left right : FailedCall}
    (from_left : .json (proposalJson left.name left.input) ∈ inputs ∧
      .json (observationJson left.isError left.output) ∈ inputs)
    (from_right : .json (proposalJson right.name right.input) ∈ inputs ∧
      .json (observationJson right.isError right.output) ∈ inputs)
    (same : left.toJson = right.toJson) : left = right := by
  simp only [toJson, Json.obj.injEq, List.cons.injEq, Prod.mk.injEq, Json.str.injEq, true_and,
    and_true, Json.bool.injEq] at same
  obtain ⟨proposal, observation, _⟩ := same
  have proposed := apart _ from_left.1 _ from_right.1 proposal
  have observed := apart _ from_left.2 _ from_right.2 observation
  obtain ⟨name, input, isError, output⟩ := left
  obtain ⟨name', input', isError', output'⟩ := right
  simp only [proposalJson, observationJson, HashInput.json.injEq, Json.obj.injEq, List.cons.injEq,
    Prod.mk.injEq, Json.str.injEq, Json.bool.injEq, true_and, and_true] at proposed observed
  obtain ⟨rfl, rfl⟩ := proposed
  obtain ⟨rfl, rfl⟩ := observed
  rfl

/-- The fingerprint of a failure tells it apart. -/
theorem failureSha256_apart {failures : List (List FailedCall)}
    (apart : TellsApart (fingerprintInputs failures)) :
    ∀ left ∈ failures, ∀ right ∈ failures, failureSha256 left = failureSha256 right →
      left = right := by
  have cycle : ∀ failure ∈ failures, HashInput.json (failureJson failure) ∈
      fingerprintInputs failures :=
    fun failure member => List.mem_flatMap.2 ⟨failure, member, List.mem_cons_self⟩
  have members : ∀ failure ∈ failures, ∀ call ∈ failure,
      .json (proposalJson call.name call.input) ∈ fingerprintInputs failures ∧
        .json (observationJson call.isError call.output) ∈ fingerprintInputs failures := by
    intro failure member call inside
    constructor <;>
      exact List.mem_flatMap.2 ⟨failure, member, List.mem_cons_of_mem _
        (List.mem_flatMap.2 ⟨call, inside, by simp⟩)⟩
  intro left here right there same
  have json := apart _ (cycle left here) _ (cycle right there) same
  simp only [failureJson, HashInput.json.injEq, Json.obj.injEq, List.cons.injEq, Prod.mk.injEq,
    Json.arr.injEq, true_and, and_true] at json
  have fromLeft := members left here
  have fromRight := members right there
  clear here there same
  induction left generalizing right with
  | nil => exact (List.map_eq_nil_iff.1 json.symm).symm
  | cons call calls ih =>
    cases right with
    | nil => cases json
    | cons other others =>
      rw [List.map_cons, List.map_cons, List.cons.injEq] at json
      rw [FailedCall.eq_of_toJson apart (fromLeft call List.mem_cons_self)
          (fromRight other List.mem_cons_self) json.1,
        ih others json.2 (fun x member => fromLeft x (List.mem_cons_of_mem _ member))
          (fun x member => fromRight x (List.mem_cons_of_mem _ member))]

/-! ## The governor reads what was seen -/

/-- The governor without its window holds the fingerprints of what was seen. -/
structure Reads (policy : ProgressPolicy) (seen : Seen) (governor : ProgressGovernor) : Prop where
  policy : governor.policy = policy
  failures : governor.failedCycles = seen.failures.map failureSha256
  pending : (governor.pending = none ∧ seen.calls = []) ∨ ∃ batchId,
    governor.pending = some ⟨batchId, seen.size, seen.calls.map SeenCall.fingerprint⟩

theorem digest_of_progressValue {value : Json} {maximum : Nat} {sha256 : String}
    (made : digestProgressValue value maximum = .ok sha256) :
    Sha256.digest (.json value) = sha256 := by
  obtain ⟨_, _, digested⟩ := bind_eq_ok.1 (mapError_eq_ok.1 made)
  exact (ok_eq_ok.1 digested).symm

theorem settleCall_fingerprint {callId : String} {output : Json} {isError : Bool} :
    ∀ {calls : List SeenCall} {settled : List PendingCall},
      ProgressGovernor.settleCall callId (Sha256.digest (.json (observationJson isError output))) isError
          (calls.map SeenCall.fingerprint) = .ok settled →
        settled = (settleSeen callId (isError, output) calls).map SeenCall.fingerprint := by
  intro calls
  induction calls with
  | nil => intro settled ended; cases ended
  | cons call calls ih =>
    intro settled ended
    rw [List.map_cons, ProgressGovernor.settleCall] at ended
    rw [settleSeen]
    by_cases named : call.callId = callId
    · rw [if_pos (show call.fingerprint.callId = callId from named)] at ended
      replace ended := rest_ok ended
      rw [if_pos named]
      exact ok_eq_ok.1 ended
    · rw [if_neg (show ¬ call.fingerprint.callId = callId from named)] at ended
      obtain ⟨others, rest, ended⟩ := bind_eq_ok.1 ended
      rw [if_neg named, List.map_cons, ← ih rest]
      exact ok_eq_ok.1 ended

theorem any_unsettled (calls : List SeenCall) :
    (calls.map SeenCall.fingerprint).any (fun call => call.resultSha256.isNone) =
      calls.any (·.result.isNone) := by
  rw [List.any_map]
  exact congrArg (calls.any ·) (funext fun call => Option.isNone_map)

/-- The fingerprints of a decision all of whose results are in. -/
theorem settled_fingerprints {calls : List SeenCall}
    (settled : calls.any (·.result.isNone) = false) :
    (calls.map SeenCall.fingerprint).map PendingCall.toJson =
        (calls.filterMap SeenCall.settled).map FailedCall.toJson ∧
      (calls.map SeenCall.fingerprint).all (fun call => call.isError == some false) =
        (calls.filterMap SeenCall.settled).all (fun call => !call.isError) := by
  induction calls with
  | nil => exact ⟨rfl, rfl⟩
  | cons call calls ih =>
    rw [List.any_cons, Bool.or_eq_false_iff] at settled
    obtain ⟨callId, name, input, result⟩ := call
    cases result with
    | none => cases settled.1
    | some result =>
      obtain ⟨json, all⟩ := ih settled.2
      have here : SeenCall.settled ⟨callId, name, input, some result⟩ =
          some ⟨name, input, result.1, result.2⟩ := rfl
      rw [List.filterMap_cons_some here]
      refine ⟨?_, ?_⟩
      · rw [List.map_cons, List.map_cons, List.map_cons, json]
        rfl
      · rw [List.map_cons, List.all_cons, List.all_cons, all]
        obtain ⟨isError, output⟩ := result
        cases isError <;> rfl

variable {policy : ProgressPolicy} {seen : Seen} {governor next : ProgressGovernor}

theorem Reads.call (reads : Reads policy seen governor) {callId name : String} {input : Json}
    {batch : Option ToolCallBatch}
    (observed : governor.observeCall callId name input batch = .ok next) :
    Reads policy (seen.call callId name input batch) next := by
  obtain ⟨proposal, made, observed⟩ := bind_eq_ok.1 observed
  have fingerprint : (⟨callId, proposal, none, none⟩ : PendingCall) =
      SeenCall.fingerprint ⟨callId, name, input, none⟩ := by
    rw [← digest_of_progressValue made]
    rfl
  dsimp only at observed
  rw [fingerprint] at observed
  cases batch with
  | none =>
    replace observed := rest_ok observed
    obtain rfl := ok_eq_ok.1 observed
    exact ⟨reads.policy, reads.failures, .inr ⟨none, rfl⟩⟩
  | some batch =>
    rw [Seen.call]
    dsimp only at observed
    by_cases first : batch.index = 0
    · rw [if_pos first] at observed ⊢
      replace observed := rest_ok observed
      obtain rfl := ok_eq_ok.1 observed
      exact ⟨reads.policy, reads.failures, .inr ⟨some batch.id, rfl⟩⟩
    · rw [if_neg first] at observed ⊢
      obtain ⟨pending, held, observed⟩ := bind_eq_ok.1 observed
      replace observed := rest_ok observed
      obtain rfl := ok_eq_ok.1 observed
      rw [orError_eq_ok] at held
      refine ⟨reads.policy, reads.failures, .inr ?_⟩
      rcases reads.pending with ⟨absent, _⟩ | ⟨batchId, here⟩
      · rw [absent] at held
        cases held
      · rw [here, Option.some.injEq] at held
        subst held
        exact ⟨batchId, by rw [List.map_append]; rfl⟩

theorem Reads.result (reads : Reads policy seen governor) {callId : String} {output : Json}
    {isError : Bool} (observed : governor.observeResultComplete callId output isError = .ok next) :
    Reads policy (seen.result callId output isError) next := by
  obtain ⟨resultSha256, made, observed⟩ := bind_eq_ok.1 observed
  obtain ⟨pending, held, observed⟩ := bind_eq_ok.1 observed
  obtain ⟨calls, settles, observed⟩ := bind_eq_ok.1 observed
  rw [orError_eq_ok] at held
  rcases reads.pending with ⟨absent, _⟩ | ⟨batchId, here⟩
  · rw [absent] at held
    cases held
  rw [here, Option.some.injEq] at held
  subst held
  obtain rfl := digest_of_progressValue made
  obtain rfl := settleCall_fingerprint settles
  rw [Seen.result]
  dsimp only at observed ⊢
  rw [List.length_map, any_unsettled] at observed
  generalize settleSeen callId (isError, output) seen.calls = calls at observed ⊢
  by_cases unsettled : (calls.length != seen.size || calls.any (·.result.isNone)) = true
  · rw [if_pos unsettled] at observed ⊢
    obtain rfl := ok_eq_ok.1 observed
    exact ⟨reads.policy, reads.failures, .inr ⟨batchId, rfl⟩⟩
  · rw [if_neg unsettled] at observed ⊢
    rw [Bool.not_eq_true, Bool.or_eq_false_iff] at unsettled
    obtain ⟨json, all⟩ := settled_fingerprints unsettled.2
    rw [json, all] at observed
    split at observed
    · rename_i succeeded
      rw [if_pos succeeded]
      obtain rfl := ok_eq_ok.1 observed
      exact ⟨reads.policy, rfl, .inl ⟨rfl, rfl⟩⟩
    · rename_i failed
      rw [if_neg failed]
      obtain ⟨cycleSha256, hashed, observed⟩ := bind_eq_ok.1 observed
      obtain rfl := ok_eq_ok.1 observed
      refine ⟨reads.policy, ?_, .inl ⟨rfl, rfl⟩⟩
      show governor.failedCycles ++ [cycleSha256] = _
      rw [reads.failures, List.map_append, ← digest_of_progressValue hashed]
      rfl

/-- **One Item.** -/
theorem Reads.observe (reads : Reads policy seen governor) {item : Item}
    (observed : governor.observeComplete item = .ok next) :
    Reads policy (seen.observe item) next := by
  unfold ProgressGovernor.observeComplete ProgressGovernor.observe at observed
  unfold Seen.observe
  cases kind : item.kind with
  | toolCall _ _ callId name input batch =>
    rw [kind] at observed
    exact reads.call observed
  | toolResult callId output isError _ =>
    rw [kind] at observed
    exact reads.result observed
  | userMessage _ | steeringApplied _ _ | assistantMessage _ _ _ _ =>
    rw [kind] at observed
    replace observed := rest_ok observed
    obtain rfl := ok_eq_ok.1 observed
    exact ⟨reads.policy, rfl, .inl ⟨rfl, rfl⟩⟩
  | verificationResult _ _ _ _ _ =>
    rw [kind] at observed
    replace observed := rest_ok observed
    obtain rfl := ok_eq_ok.1 observed
    exact ⟨reads.policy, rfl, reads.pending⟩
  | _ =>
    rw [kind] at observed
    obtain rfl := ok_eq_ok.1 observed
    exact reads

/-- Any number of Items. -/
theorem Reads.foldl (items : List Item) :
    ∀ {seen : Seen} {governor next : ProgressGovernor}, Reads policy seen governor →
      items.foldlM ProgressGovernor.observeComplete governor = .ok next →
      Reads policy (items.foldl Seen.observe seen) next := by
  induction items with
  | nil =>
    intro seen governor next reads observed
    obtain rfl := ok_eq_ok.1 observed
    exact reads
  | cons item items ih =>
    intro seen governor next reads observed
    rw [List.foldlM_cons] at observed
    obtain ⟨middle, first, rest⟩ := bind_eq_ok.1 observed
    exact ih (reads.observe first) rest

end Fingerprints

/-! ## Call ids -/

/-- The Item with another call id. -/
def renameItem (rename : String → String) (item : Item) : Item :=
  match item.kind with
  | .toolCall modelId modelOrigin callId name input batch =>
    { item with kind := .toolCall modelId modelOrigin (rename callId) name input batch }
  | .toolResult callId output isError evidence =>
    { item with kind := .toolResult (rename callId) output isError evidence }
  | _ => item

/-- The first call of a decision. -/
def beginsDecision (item : Item) : Bool :=
  match item.kind with
  | .toolCall _ _ _ _ _ batch => batch.all fun batch => decide (batch.index = 0)
  | _ => false

/-- Other call ids in every decision. -/
def renameCalls (rename : Nat → String → String) : Nat → List Item → List Item
  | _, [] => []
  | decision, item :: items =>
    let decision := if beginsDecision item then decision + 1 else decision
    renameItem (rename decision) item :: renameCalls rename decision items

def PendingCall.renamed (rename : String → String) (call : PendingCall) : PendingCall :=
  { call with callId := rename call.callId }

def ProgressGovernor.renamed (rename : String → String) (governor : ProgressGovernor) :
    ProgressGovernor :=
  { governor with pending := governor.pending.map fun cycle =>
      { cycle with calls := cycle.calls.map (PendingCall.renamed rename) } }

section CallIds

variable {rename : String → String}

theorem settleCall_renamed (injective : Function.Injective rename) (callId sha256 : String)
    (isError : Bool) (calls : List PendingCall) :
    ProgressGovernor.settleCall (rename callId) sha256 isError (calls.map (PendingCall.renamed rename)) =
      (ProgressGovernor.settleCall callId sha256 isError calls).map
        (List.map (PendingCall.renamed rename)) := by
  induction calls with
  | nil => rfl
  | cons call calls ih =>
    rw [List.map_cons, ProgressGovernor.settleCall, ProgressGovernor.settleCall]
    by_cases named : call.callId = callId
    · rw [if_pos named, if_pos (show (call.renamed rename).callId = rename callId from
        congrArg rename named)]
      show (rejectIf call.resultSha256.isSome _ >>= _) = _
      cases rejectIf call.resultSha256.isSome _ <;> rfl
    · rw [if_neg named, if_neg (show ¬ (call.renamed rename).callId = rename callId from
        fun same => named (injective same)), ih]
      cases ProgressGovernor.settleCall callId sha256 isError calls <;> rfl

variable [Sha256]

theorem observeCall_renamed (before : String → String) (governor : ProgressGovernor)
    (callId name : String) (input : Json) (batch : Option ToolCallBatch)
    (same : (batch.all fun batch => decide (batch.index = 0)) = false → before = rename) :
    (governor.renamed before).observeCall (rename callId) name input batch =
      (governor.observeCall callId name input batch).map (ProgressGovernor.renamed rename) := by
  have open_ : (governor.renamed before).requireNoPendingCycle = governor.requireNoPendingCycle := by
    rw [ProgressGovernor.requireNoPendingCycle, ProgressGovernor.requireNoPendingCycle,
      ProgressGovernor.renamed, Option.isSome_map]
  unfold ProgressGovernor.observeCall
  cases digestProgressValue (.obj [("name", .str name), ("input", input)])
    maxProgressValueBytes with
  | error error => rfl
  | ok proposalSha256 =>
    simp only [ok_bind]
    cases batch with
    | none =>
      dsimp only
      rw [open_]
      cases governor.requireNoPendingCycle <;> rfl
    | some batch =>
      dsimp only
      by_cases first : batch.index = 0
      · rw [if_pos first, if_pos first, open_]
        cases governor.requireNoPendingCycle <;> rfl
      · obtain rfl := same (decide_eq_false first)
        rw [if_neg first, if_neg first, ProgressGovernor.renamed]
        cases governor.pending with
        | none => rfl
        | some pending =>
          simp only [orError, ok_bind, Option.map_some, List.length_map]
          cases rejectIf (pending.batchId != some batch.id ||
            pending.expectedCalls != batch.size || pending.calls.length != batch.index)
            (HarnessError.state "Progress Governor observed inconsistent Tool batch evidence") with
          | error error => rfl
          | ok _ =>
            simp only [ok_bind, Except.map, ProgressGovernor.renamed, Option.map_some,
              List.map_append]
            rfl

theorem observeResult_renamed (injective : Function.Injective rename)
    (governor : ProgressGovernor) (callId : String) (output : Json) (isError : Bool) :
    (governor.renamed rename).observeResult (rename callId) output isError =
      (governor.observeResult callId output isError).map (ProgressGovernor.renamed rename) := by
  unfold ProgressGovernor.observeResult ProgressGovernor.observeResultKeeping
  cases digestProgressValue (.obj [("is_error", .bool isError), ("output", output)])
    maxProgressValueBytes with
  | error error => rfl
  | ok resultSha256 =>
    simp only [ok_bind]
    rw [ProgressGovernor.renamed]
    cases governor.pending with
    | none => rfl
    | some pending =>
      simp only [orError, ok_bind, Option.map_some]
      rw [settleCall_renamed injective]
      cases ProgressGovernor.settleCall callId resultSha256 isError pending.calls with
      | error error => rfl
      | ok calls =>
        have json : (calls.map (PendingCall.renamed rename)).map PendingCall.toJson =
            calls.map PendingCall.toJson := by
          rw [List.map_map]
          rfl
        have unsettled : (calls.map (PendingCall.renamed rename)).any
            (fun call => call.resultSha256.isNone) =
              calls.any fun call => call.resultSha256.isNone := by
          rw [List.any_map]
          rfl
        have succeeded : (calls.map (PendingCall.renamed rename)).all
            (fun call => call.isError == some false) =
              calls.all fun call => call.isError == some false := by
          rw [List.all_map]
          rfl
        simp only [ok_bind, Except.map, List.length_map, json, unsettled, succeeded]
        split
        · rfl
        · split
          · rfl
          · cases digestProgressValue (.obj [("calls", .arr (calls.map PendingCall.toJson))])
              maxProgressCycleBytes <;> rfl

/-- **One Item.**  The first call of a decision needs no relation to the ids before it. -/
theorem observe_renamed (injective : Function.Injective rename) {before : String → String}
    {item : Item} (same : beginsDecision item = false → before = rename)
    (governor : ProgressGovernor) :
    (governor.renamed before).observe (renameItem rename item) =
      (governor.observe item).map (ProgressGovernor.renamed rename) := by
  have open_ : (governor.renamed before).requireNoPendingCycle = governor.requireNoPendingCycle := by
    rw [ProgressGovernor.requireNoPendingCycle, ProgressGovernor.requireNoPendingCycle,
      ProgressGovernor.renamed, Option.isSome_map]
  obtain ⟨id, createdAtMs, kind⟩ := item
  cases kind with
  | toolCall _ _ callId name input batch =>
    exact observeCall_renamed before governor callId name input batch same
  | toolResult callId output isError _ =>
    obtain rfl := same rfl
    exact observeResult_renamed injective governor callId output isError
  | userMessage _ | steeringApplied _ _ | assistantMessage _ _ _ _ | verificationResult _ _ _ _ _ =>
    obtain rfl := same rfl
    show ((governor.renamed before).requireNoPendingCycle >>= _) =
      (governor.requireNoPendingCycle >>= _).map _
    rw [open_]
    cases governor.requireNoPendingCycle <;> rfl
  | _ =>
    obtain rfl := same rfl
    rfl

/-- **Other call ids** in every decision leave the verdict as it is. -/
theorem foldlM_observe_renamed {rename : Nat → String → String}
    (injective : ∀ decision, Function.Injective (rename decision)) (items : List Item) :
    ∀ (decision : Nat) (governor : ProgressGovernor),
      ((renameCalls rename decision items).foldlM ProgressGovernor.observe
          (governor.renamed (rename decision))).map ProgressGovernor.verdict =
        (items.foldlM ProgressGovernor.observe governor).map ProgressGovernor.verdict := by
  induction items with
  | nil => intro decision governor; rfl
  | cons item items ih =>
    intro decision governor
    rw [renameCalls]
    generalize following : (if beginsDecision item = true then decision + 1 else decision) = later
    rw [List.foldlM_cons, List.foldlM_cons, observe_renamed (injective later)
      (fun stays => by rw [← following, stays]; rfl) governor]
    cases governor.observe item with
    | error error => rfl
    | ok next => exact ih later next

theorem fromItems_verdict (policy : ProgressPolicy) (items : List Item) :
    (ProgressGovernor.fromItems policy items).map ProgressGovernor.verdict =
      (items.foldlM ProgressGovernor.observe ⟨policy, 0, none, []⟩).map
        ProgressGovernor.verdict := by
  rw [ProgressGovernor.fromItems, ProgressGovernor.advance]
  simp only [Nat.not_lt_zero, decide_false, rejectIf_false, ok_bind, List.drop_zero]
  cases items.foldlM ProgressGovernor.observe ⟨policy, 0, none, []⟩ <;> rfl

/-- **Loop detection is exact.**  The verdict is Stop with a period exactly when the failures
since the last reset end in the configured number of copies of a block of that length, at
most four and the least such; and it is the same for any other call ids. -/
theorem loop_detection_exact (policy : ProgressPolicy) (items : List Item) :
    (∀ governor, ProgressGovernor.fromItems policy items = .ok governor →
      TellsApart (fingerprintInputs (failuresSinceReset items)) →
      ∀ period repetitions, governor.verdict = .stop period repetitions ↔
        repetitions = policy.maxFailureCycleRepetitions ∧
        1 ≤ period ∧ period ≤ maxFailureCyclePeriod ∧
        EndsInCopies repetitions period (failuresSinceReset items) ∧
        ∀ shorter, 1 ≤ shorter → shorter < period →
          ¬ EndsInCopies repetitions shorter (failuresSinceReset items)) ∧
    ∀ rename : Nat → String → String, (∀ decision, Function.Injective (rename decision)) →
      (ProgressGovernor.fromItems policy (renameCalls rename 0 items)).map
          ProgressGovernor.verdict =
        (ProgressGovernor.fromItems policy items).map ProgressGovernor.verdict := by
  constructor
  · intro governor made apart period repetitions
    rw [ProgressGovernor.fromItems_eq] at made
    cases folded : ProgressGovernor.completeItems policy items with
    | error error => rw [folded] at made; cases made
    | ok complete =>
    rw [folded] at made
    obtain rfl := ok_eq_ok.1 made
    have started : Reads policy ⟨[], 0, []⟩ ⟨policy, 0, none, []⟩ := ⟨rfl, rfl, .inl ⟨rfl, rfl⟩⟩
    have reads := started.foldl items folded
    have failures : complete.failedCycles = (failuresSinceReset items).map failureSha256 :=
      reads.failures
    have found : ∀ period, repeatedSuffixPeriod complete.failedCycles
        policy.maxFailureCycleRepetitions = some period ↔ _ :=
      fun period => repeatedSuffixPeriod_eq_some
    simp only [failures, repeats_map (failureSha256_apart apart), ← endsInCopies_iff] at found
    rw [ProgressGovernor.verdict_view, ProgressGovernor.verdict, reads.policy, failures]
    constructor
    · intro stopped
      cases least : repeatedSuffixPeriod ((failuresSinceReset items).map failureSha256)
        policy.maxFailureCycleRepetitions with
      | none => rw [least] at stopped; cases stopped
      | some least =>
        rw [least] at stopped
        cases stopped
        exact ⟨rfl, (found period).1 least⟩
    · rintro ⟨rfl, ends⟩
      rw [(found period).2 ends]
  · intro rename injective
    rw [fromItems_verdict, fromItems_verdict]
    exact foldlM_observe_renamed injective items 0 ⟨policy, 0, none, []⟩

end CallIds

/-! ## Two failures with fresh call ids -/

def fingerprintSha256 : String :=
  "2c26b46b68ffc68ff99b453c1d30413413422d706483bfa0f98a5e886266e7ae"

/-- SHA-256 on proposals, observations and failures. -/
@[reducible] def fingerprintHash : Sha256 where
  toNumberReader := exactReader
  digest
    | .json (.obj (("name", _) :: _)) => receiptSha256
    | .json (.obj (("is_error", _) :: _)) => evidenceSha256
    | _ => fingerprintSha256
  digest_lower input := by
    split <;> decide +kernel

/-- The same call fails twice. -/
def repeatedFailure : List Item :=
  [⟨"item-1", 1, .toolCall none none "call-1" "read" (.str "a.txt") none⟩,
    ⟨"item-2", 2, .toolResult "call-1" (.str "missing") true []⟩,
    ⟨"item-3", 3, .toolCall none none "call-2" "read" (.str "a.txt") none⟩,
    ⟨"item-4", 4, .toolResult "call-2" (.str "missing") true []⟩]

theorem loop_detection_exact_repeated :
    EndsInCopies 2 1 (failuresSinceReset repeatedFailure) := by
  let _ := fingerprintHash
  have failures : failuresSinceReset repeatedFailure =
      List.replicate 2 [⟨"read", .str "a.txt", true, .str "missing"⟩] := by
    simp [failuresSinceReset, repeatedFailure, Seen.observe, Seen.call, Seen.result, settleSeen,
      SeenCall.settled]
  have apart : TellsApart (fingerprintInputs (failuresSinceReset repeatedFailure)) := by
    rw [failures]
    decide +kernel
  cases made : ProgressGovernor.fromItems ⟨2⟩ repeatedFailure with
  | error error =>
    have accepted : (ProgressGovernor.fromItems ⟨2⟩ repeatedFailure).isOk = true := by decide +kernel
    rw [made] at accepted
    cases accepted
  | ok governor =>
    have stopped : (ProgressGovernor.fromItems ⟨2⟩ repeatedFailure).map ProgressGovernor.verdict =
        .ok (.stop 1 2) := by decide +kernel
    rw [made] at stopped
    exact (((loop_detection_exact ⟨2⟩ repeatedFailure).1 governor made apart 1 2).1
      (ok_eq_ok.1 stopped).symm).2.2.2.1

end YHarness.Runtime

/-
# YHarness.Runtime.Play -- computing one run

An `Oracle` fixes what capabilities and clocks answer; every other call has one
answer in a given world.  With a list of actions for what happens before each
call, `Oracle.play` computes a run of an execution, and `Oracle.play_runs` says
that it is one.
-/
import YHarness.Runtime.Environment

namespace YHarness.Runtime

open YHarness.Lib YHarness.Kernel

set_option autoImplicit false

/-- The answers that are not determined by the world. -/
structure Oracle where
  capability : World → (c : CapabilityCall) → CapabilityReply c
  nowMs : UInt64

def isOk {α : Type} : Except HarnessError α → Bool
  | .ok _ => true
  | .error _ => false

theorem isOk_unit {outcome : Except HarnessError Unit} : isOk outcome = true ↔ outcome = .ok () := by
  cases outcome <;> simp [isOk]

/-! ## Signals -/

inductive Signal where
  | cancel
  | phase (acceptsWork : Bool)

def Signal.act (signal : Signal) (w : World) : Option World :=
  match signal with
  | cancel => some { w with cancelled := true }
  | phase acceptsWork => some { w with acceptsWork }

theorem Signal.act_step (signal : Signal) (w v : World) (acted : signal.act w = some v) :
    SignalStep w v := by
  cases signal with
  | cancel =>
    obtain rfl := Option.some.inj acted
    exact .cancel w
  | phase acceptsWork =>
    obtain rfl := Option.some.inj acted
    exact .phase w acceptsWork

/-! ## Runs -/

variable [Sha256]

namespace Oracle

/-- The next generated identity. -/
def freshId (w : World) : String :=
  s!"id-{w.usedIds.length}"

/-- The answer to a call and the world after it. -/
def answer (o : Oracle) (thread : StoredThread) (w : World) :
    (c : RuntimeCall) → Option (RuntimeReply c × World)
  | .loadThread => some (w.turns, w.cacheHead)
  | .loadEvents => some (w.turns, w)
  | .loadProjection => some (w.turns, { w with held := some w.coordinates })
  | .streamHead true => some (w.headView, { w.cacheHead with held := some w.coordinates })
  | .streamHead false => some (w.headView, { w with
      cached := some (w.cached.getD w.coordinates)
      held := some (w.cached.getD w.coordinates) })
  | .requireCapacity => some (w.capacityCheck, w.cacheHead)
  | .commit eventId recordedAtMs event =>
    match w.commit thread eventId recordedAtMs event with
    | .ok v => some (.ok (), v)
    | .error error => some (.error error, if World.isConflict error then w.invalidate else w)
  | .stamp =>
    if freshId w ∉ w.usedIds ∧ isOk (State.validateStateId "id" (freshId w)) then
      some (⟨freshId w, o.nowMs⟩, { w with usedIds := freshId w :: w.usedIds })
    else none
  | .now => some (o.nowMs, w)
  | .instant _ => some (o.nowMs.toNat, w)
  | .coolingModels => some ([], w)
  | .enqueueRepairOp _ => some ((), w)
  | .claimThread =>
    if w.claimed then
      some (.error (.state s!"thread {thread.id} already has an active turn"), w)
    else some (.ok (), { w with claimed := true })
  | .registerControl control =>
    match w.control with
    | none => some (.ok (), { w with control := some control })
    | some _ => some
        (.error (.state s!"thread {thread.id} already has an active Turn control"), w)
  | .release => some ((), { w with control := none, claimed := false })
  | .lock _ =>
    match w.control with
    | none => some (.error (.state s!"thread {thread.id} has no active steerable Turn"), w)
    | some control =>
      if w.locked then none else some (.ok control, { w with locked := true })
  | .unlock control => some ((), { w with control := some control, locked := false })
  | .acceptsWork => some (w.acceptsWork, w)
  | .isCancelled _ => some (w.cancelled, w)
  | .invoke _ capability _ => some (o.capability w capability, w)
  | .lookupTombstone key =>
    some (if thread.durableInbox then w.tombstones.lookup key else none, w)
  | .recordTombstone key reason atMs => some ((), { w with
      tombstones := if thread.durableInbox then (key, ⟨reason, atMs⟩) :: w.tombstones
        else w.tombstones })

theorem answer_effect {o : Oracle} {thread : StoredThread} {w v : World} {c : RuntimeCall}
    {reply : RuntimeReply c} (answered : o.answer thread w c = some (reply, v)) :
    World.Effect thread w c reply v := by
  cases c with
  | loadThread | loadEvents | loadProjection | requireCapacity | acceptsWork | isCancelled =>
    obtain ⟨rfl, rfl⟩ := Prod.mk.inj (Option.some.inj answered)
    exact ⟨rfl, rfl⟩
  | streamHead refresh =>
    cases refresh <;>
    · obtain ⟨rfl, rfl⟩ := Prod.mk.inj (Option.some.inj answered)
      exact ⟨rfl, rfl⟩
  | commit eventId recordedAtMs event =>
    simp only [answer] at answered
    split at answered
    · obtain ⟨rfl, rfl⟩ := Prod.mk.inj (Option.some.inj answered)
      assumption
    · obtain ⟨rfl, rfl⟩ := Prod.mk.inj (Option.some.inj answered)
      exact ⟨by assumption, rfl⟩
  | stamp =>
    simp only [answer] at answered
    split at answered
    · rename_i usable
      obtain ⟨rfl, rfl⟩ := Prod.mk.inj (Option.some.inj answered)
      exact ⟨usable.1, isOk_unit.1 usable.2, rfl⟩
    · cases answered
  | now | instant | coolingModels | enqueueRepairOp | release | unlock | invoke =>
    obtain ⟨rfl, rfl⟩ := Prod.mk.inj (Option.some.inj answered)
    rfl
  | claimThread =>
    simp only [answer] at answered
    split at answered
    · rename_i taken
      obtain ⟨rfl, rfl⟩ := Prod.mk.inj (Option.some.inj answered)
      exact ⟨rfl, .inl ⟨taken, rfl⟩⟩
    · rename_i free
      obtain ⟨rfl, rfl⟩ := Prod.mk.inj (Option.some.inj answered)
      exact ⟨by simpa using free, rfl⟩
  | registerControl control =>
    simp only [answer] at answered
    split at answered
    · rename_i free
      obtain ⟨rfl, rfl⟩ := Prod.mk.inj (Option.some.inj answered)
      exact ⟨free, rfl⟩
    · rename_i taken
      obtain ⟨rfl, rfl⟩ := Prod.mk.inj (Option.some.inj answered)
      exact ⟨by simp [taken], rfl, rfl⟩
  | lock operation =>
    simp only [answer] at answered
    split at answered
    · rename_i missing
      obtain ⟨rfl, rfl⟩ := Prod.mk.inj (Option.some.inj answered)
      exact ⟨missing, rfl, rfl⟩
    · rename_i control found
      split at answered
      · cases answered
      · rename_i free
        obtain ⟨rfl, rfl⟩ := Prod.mk.inj (Option.some.inj answered)
        exact ⟨by simpa using free, found, rfl⟩
  | lookupTombstone key =>
    obtain ⟨rfl, rfl⟩ := Prod.mk.inj (Option.some.inj answered)
    exact ⟨rfl, rfl⟩
  | recordTombstone key reason atMs =>
    obtain ⟨rfl, rfl⟩ := Prod.mk.inj (Option.some.inj answered)
    rfl

section Playing

variable {α A : Type} (o : Oracle) (thread : StoredThread) (act : A → World → Option World)
  (allowed : World → RuntimeCall → Prop) [∀ w c, Decidable (allowed w c)]

/-- Actions and then a call, which has to be allowed. -/
def move (actions : List A) (w : World) (c : RuntimeCall) : Option (RuntimeReply c × World) := do
  let v ← actions.foldlM (fun w action => act action w) w
  if allowed v c then
    let (reply, u) ← o.answer thread v c
    some (reply, { u with seen := World.note v.seen c reply })
  else none

/-- The run of a task with the given actions before its calls. -/
def play (task : RuntimeM α) (actions : List (List A)) (w : World) :
    Option (Except HarnessError α × World) :=
  task.run.play (move o thread act allowed) actions w

variable {o thread act allowed}

/-- **Played runs are runs.** -/
theorem play_runs {step : World → World → Prop}
    (legal : ∀ action w v, act action w = some v → step w v) {task : RuntimeM α}
    {actions : List (List A)} {w w' : World} {outcome : Except HarnessError α}
    (played : play o thread act allowed task actions w = some (outcome, w')) :
    ∃ trace, Task.Against (Setting.where ⟨World.Executes thread, Relation.ReflTransGen step⟩ allowed)
      task.run w trace outcome w' := by
  refine Task.against_of_play (fun actions w c reply u moved => ?_) played
  obtain ⟨v, acted, answered⟩ := Option.bind_eq_some_iff.1 moved
  refine ⟨v, relied_of_acts legal acted, ?_⟩
  split at answered
  · rename_i permitted
    obtain ⟨⟨reply', u'⟩, found, same⟩ := Option.bind_eq_some_iff.1 answered
    obtain ⟨rfl, rfl⟩ := Prod.mk.inj (Option.some.inj same)
    exact ⟨permitted, u', answer_effect found, rfl⟩
  · cases answered

end Playing

end Oracle

/-! ## Metadata -/

/-- What happens around an execution among name changes.  A name change is made
in two steps. -/
inductive MetadataAction where
  | signalled (signal : Signal)
  | rename (name : Option String) (eventId : EventId) (recordedAtMs : UInt64)
  | publish

def MetadataAction.act (thread : StoredThread) (action : MetadataAction) (w : World) :
    Option World :=
  match action with
  | signalled signal => signal.act w
  | rename name eventId recordedAtMs =>
    match State.validatePendingEvent ⟨eventId, thread.id, w.version, w.recoveryBytes,
      recordedAtMs, .threadNamed name⟩ with
    | .ok charge => some
        { w with version := w.version + 1, recoveryBytes := w.recoveryBytes + charge }
    | .error _ => none
  | publish => some { w with cached := some w.coordinates }

theorem MetadataAction.act_step {thread : StoredThread} (action : MetadataAction) (w v : World)
    (acted : action.act thread w = some v) : SignalStep w v ∨ MetadataStep thread w v := by
  cases action with
  | signalled signal => exact .inl (signal.act_step w v acted)
  | rename name eventId recordedAtMs =>
    simp only [act] at acted
    split at acted
    · rename_i charge valid
      obtain rfl := Option.some.inj acted
      exact .inr (.append w (.threadNamed name) eventId recordedAtMs charge rfl valid)
    · cases acted
  | publish =>
    obtain rfl := Option.some.inj acted
    refine .inr (.publish w _ fun head mem => ?_)
    obtain rfl := Option.some.inj mem
    exact Nat.le_refl _

/-! ## A plain Runtime -/

/-- A digest for runs that take none. -/
@[reducible] def blankSha256 : Sha256 where
  toNumberReader := exactReader
  digest _ := "e3b0c44298fc1c149afbf4c8996fb92427ae41e4649b934ca495991b7852b855"
  digest_lower := constantSha256.digest_lower

def plainContext : ContextEngine where
  compileConversation _ := .ok ⟨[], [], 0, 0⟩
  conversationCompactorName _ := none
  mergeConversationSummary compilation _ := .ok compilation
  mergeTurnContext compilation _ := .ok compilation
  validateTurnContextInputs _ := .ok ()

def plainRuntime : HarnessRuntime where
  models := ⟨[⟨.valid "model", .builtIn⟩], none, none, none⟩
  tools := []
  toolView := ⟨[], []⟩
  context := plainContext
  verification := []
  supportsDurableWait := false
  workerId := "worker-1"
  maxConcurrentTurns := 1
  maxParallelToolCalls := 1
  maxModelAttemptsPerStep := 1
  progressPolicy := ⟨3⟩
  maxSteps := 4

def plainExecution : Execution where
  runtime := plainRuntime
  thread := ⟨"thread-1", none, false⟩
  options := ⟨.localProcess, ⟨none, none, []⟩, [], none, none⟩

/-- A Thread without a Turn. -/
def plainWorld : World where
  earlier := []
  current := none
  version := 1
  recoveryBytes := 256
  cached := none
  held := none
  eventIds := []
  usedIds := []
  tombstones := []
  claimed := false
  control := none
  locked := false
  cancelled := false
  acceptsWork := true
  seen := .start

/-- Capabilities that notice the cancellation token. -/
def plainOracle : Oracle where
  capability w
    | .compileConversationSummary _ _ => .ok none
    | .compile _ _ => if w.cancelled then .error (.cancelled .context) else .ok ⟨[], none⟩
    | .completeModel _ _ _ => ⟨if w.cancelled then .cancelled else .panicked, 0⟩
    | .sleep _ _ => .ok ()
    | .authorize _ _ => .ok .allow
    | .decideApproval _ _ => .ok .approve
    | .executeTool _ => .ok ⟨.null, []⟩
    | .executeTools _ => none
    | .verify _ _ => .ok (.passed none)
    | .submitWait _ _ => .error (.approval "unavailable")
    | .getWait _ _ => .ok none
    | .abandonTurn _ _ => .ok ()
  nowMs := 1000

end YHarness.Runtime

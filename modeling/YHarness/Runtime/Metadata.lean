/-
# YHarness.Runtime.Metadata -- a Turn among metadata writes

An execution reads a stream head and commits against it in two steps.  Where no
metadata event comes between the two and the Thread keeps room for the events of
the Turn, the execution makes the same calls, gets the same answers and leaves
the same Turns as without the metadata (`metadata_writes_unseen`).  Where one
does come between, the append is refused and the Turn is finished as failed
(`name_change_fails_turn`).
-/
import YHarness.Runtime.Play

namespace YHarness.Runtime

open YHarness.Lib YHarness.Kernel YHarness.State

set_option autoImplicit false

/-! ## Room for an event -/

/-- The stream versions an event may be appended at. -/
def eventLimit (event : StateEvent) : Nat :=
  if event.isTerminal then maxStateRecoveryEvents
  else stateThreadEventLimit - stateTerminalEventReserve

def recoveryByteLimit (event : StateEvent) : Nat :=
  if event.isTerminal then stateThreadRecoveryByteLimit
  else stateThreadRecoveryByteLimit - stateTerminalRecoveryByteReserve

/-- The capacity of the Thread is no reason to reject the event. -/
def HasRoom (head : Coordinates) (event : StateEvent) : Prop :=
  head.1 < eventLimit event ∧
    ∀ charge, encodeStateEvent event = .ok charge → head.2 + charge ≤ recoveryByteLimit event

instance (head : Coordinates) (event : StateEvent) : Decidable (HasRoom head event) :=
  match encoded : encodeStateEvent event with
  | .ok charge => decidable_of_iff
      (head.1 < eventLimit event ∧ head.2 + charge ≤ recoveryByteLimit event)
      (by simp [HasRoom, encoded])
  | .error _ => decidable_of_iff (head.1 < eventLimit event) (by simp [HasRoom, encoded])

theorem HasRoom.mono {head head' : Coordinates} {event : StateEvent} (room : HasRoom head event)
    (version : head'.1 ≤ head.1) (bytes : head'.2 ≤ head.2) : HasRoom head' event := by
  refine ⟨lt_of_le_of_lt version room.1, fun charge encoded => ?_⟩
  have := room.2 charge encoded
  omega

/-! ## The same world without the metadata -/

/-- The worlds of a run with and without metadata: they differ in coordinates and
heads only. -/
structure Shadow (w v : World) : Prop where
  same : v = { w with
    version := v.version
    recoveryBytes := v.recoveryBytes
    cached := v.cached
    held := v.held }
  version : v.version ≤ w.version
  bytes : v.recoveryBytes ≤ w.recoveryBytes
  cachedPast : ∀ head ∈ w.cached, head.1 ≤ w.version
  heldPast : ∀ head ∈ w.held, head.1 ≤ w.version
  cachedCurrent : v.cached = none ∨ v.cached = some v.coordinates
  heldCurrent : w.held = some w.coordinates → v.held = some v.coordinates

namespace Shadow

variable {w v : World}

theorem signal (shadow : Shadow w v) {w' : World} (step : SignalStep w w') :
    ∃ v', SignalStep v v' ∧ Shadow w' v' := by
  obtain ⟨same, version, bytes, cachedPast, heldPast, cachedCurrent, heldCurrent⟩ := shadow
  cases step with
  | cancel =>
    refine ⟨_, .cancel v, ?_, version, bytes, cachedPast, heldPast, cachedCurrent, heldCurrent⟩
    rw [same]
  | phase acceptsWork =>
    refine ⟨_, .phase v acceptsWork, ?_, version, bytes, cachedPast, heldPast, cachedCurrent,
      heldCurrent⟩
    rw [same]

theorem advance (shadow : Shadow w v) (threadId : ThreadId) (event : StateEvent)
    (eventId : EventId) (charge : Nat) :
    Shadow ((w.store threadId event).advance eventId charge)
      ((v.store threadId event).advance eventId charge) := by
  obtain ⟨a, b, c, d, rfl⟩ : ∃ a b c d, v = { w with
      version := a, recoveryBytes := b, cached := c, held := d } := ⟨_, _, _, _, shadow.same⟩
  obtain ⟨-, version, bytes, cachedPast, heldPast, cachedCurrent, -⟩ := shadow
  have stored : ({ w with version := a, recoveryBytes := b, cached := c, held := d } : World).store
      threadId event = { w.store threadId event with
        version := a, recoveryBytes := b, cached := c, held := d } := by
    cases event <;> rfl
  rw [stored]
  have versionEq : (w.store threadId event).version = w.version := by cases event <;> rfl
  have bytesEq : (w.store threadId event).recoveryBytes = w.recoveryBytes := by
    cases event <;> rfl
  have cachedEq : (w.store threadId event).cached = w.cached := by cases event <;> rfl
  have heldEq : (w.store threadId event).held = w.held := by cases event <;> rfl
  refine ⟨rfl, ?_, ?_, ?_, ?_, ?_, ?_⟩
  · simpa [World.advance, versionEq] using version
  · simpa [World.advance, bytesEq] using bytes
  · intro head mem
    simp only [World.advance, versionEq, cachedEq] at mem ⊢
    split at mem
    · obtain rfl := Option.some.inj mem
      exact Nat.le_refl _
    · exact Nat.le_succ_of_le (cachedPast head mem)
  · intro head mem
    simp only [World.advance, versionEq, heldEq] at mem ⊢
    exact Nat.le_succ_of_le (heldPast head mem)
  · rcases cachedCurrent with empty | current
    · obtain rfl : c = none := empty
      simp [World.advance]
    · obtain rfl : c = some (a, b) := current
      simp [World.advance, World.coordinates]
  · intro current
    -- the head was read before this event
    have := heldPast _ (heldEq ▸ current)
    simp [World.advance, World.coordinates, versionEq] at this

theorem cacheHead (shadow : Shadow w v) : Shadow w.cacheHead v.cacheHead := by
  obtain ⟨a, b, c, d, rfl⟩ : ∃ a b c d, v = { w with
      version := a, recoveryBytes := b, cached := c, held := d } := ⟨_, _, _, _, shadow.same⟩
  obtain ⟨-, version, bytes, cachedPast, heldPast, cachedCurrent, heldCurrent⟩ := shadow
  refine ⟨rfl, version, bytes, ?_, heldPast, ?_, heldCurrent⟩
  · intro head mem
    simp only [World.cacheHead] at mem ⊢
    split at mem
    · obtain rfl := Option.some.inj mem
      exact Nat.le_refl _
    · exact cachedPast head mem
  · rcases cachedCurrent with empty | current
    · obtain rfl : c = none := empty
      simp [World.cacheHead, World.coordinates]
    · obtain rfl : c = some (a, b) := current
      simp [World.cacheHead, World.coordinates]

theorem invalidate (shadow : Shadow w v) : Shadow w.invalidate v.invalidate := by
  obtain ⟨a, b, c, d, rfl⟩ : ∃ a b c d, v = { w with
      version := a, recoveryBytes := b, cached := c, held := d } := ⟨_, _, _, _, shadow.same⟩
  obtain ⟨-, version, bytes, cachedPast, heldPast, cachedCurrent, heldCurrent⟩ := shadow
  refine ⟨rfl, version, bytes, ?_, heldPast, ?_, heldCurrent⟩
  · intro head mem
    simp only [World.invalidate] at mem ⊢
    split at mem
    · cases mem
    · exact cachedPast head mem
  · simp only [World.invalidate]
    split
    · exact .inl rfl
    · exact cachedCurrent

/-- Any head that is read is the current one where no metadata is written. -/
theorem readHead (shadow : Shadow w v) (head : Coordinates) (past : head.1 ≤ w.version) :
    Shadow { w with held := some head } { v with held := some v.coordinates } := by
  obtain ⟨same, version, bytes, cachedPast, -, cachedCurrent, -⟩ := shadow
  refine ⟨?_, version, bytes, cachedPast, ?_, cachedCurrent, fun _ => rfl⟩
  · rw [same]
  · intro head' mem
    obtain rfl := Option.some.inj mem
    exact past

theorem readCached (shadow : Shadow w v) :
    Shadow { w with
        cached := some (w.cached.getD w.coordinates)
        held := some (w.cached.getD w.coordinates) }
      { v with
        cached := some (v.cached.getD v.coordinates)
        held := some (v.cached.getD v.coordinates) } := by
  have past : (w.cached.getD w.coordinates).1 ≤ w.version := by
    cases found : w.cached with
    | none => exact Nat.le_refl _
    | some head => exact shadow.cachedPast head found
  have current : v.cached.getD v.coordinates = v.coordinates := by
    rcases shadow.cachedCurrent with empty | current
    · rw [empty]
      rfl
    · rw [current]
      rfl
  rw [current]
  obtain ⟨same, version, bytes, -, -, -, -⟩ := shadow
  refine ⟨?_, version, bytes, ?_, ?_, .inr rfl, fun _ => rfl⟩
  · rw [same]
  · intro head mem
    obtain rfl := Option.some.inj mem
    exact past
  · intro head mem
    obtain rfl := Option.some.inj mem
    exact past

theorem headView_eq (shadow : Shadow w v) : v.headView = w.headView := by
  rw [shadow.same]
  rfl

theorem turns_eq (shadow : Shadow w v) : v.turns = w.turns := by
  rw [shadow.same]
  rfl

/-- Fields that are neither coordinates nor heads change alike. -/
theorem change (shadow : Shadow w v) {w' v' : World}
    (kept : w'.coordinates = w.coordinates ∧ w'.cached = w.cached ∧ w'.held = w.held)
    (same : v' = { w' with
      version := v.version
      recoveryBytes := v.recoveryBytes
      cached := v.cached
      held := v.held }) : Shadow w' v' := by
  obtain ⟨coordinates, cached, held⟩ := kept
  have version : w'.version = w.version := congrArg Prod.fst coordinates
  have bytes : w'.recoveryBytes = w.recoveryBytes := congrArg Prod.snd coordinates
  subst same
  refine ⟨rfl, ?_, ?_, ?_, ?_, shadow.cachedCurrent, ?_⟩
  · exact version ▸ shadow.version
  · exact bytes ▸ shadow.bytes
  · exact version ▸ cached ▸ shadow.cachedPast
  · exact version ▸ held ▸ shadow.heldPast
  · rw [coordinates, held]
    exact shadow.heldCurrent

end Shadow

/-- A Thread at rest: nothing is held and the cached head, if any, is current. -/
structure AtRest (w : World) : Prop where
  held : w.held = none
  cached : w.cached = none ∨ w.cached = some w.coordinates

theorem AtRest.shadow {w : World} (rest : AtRest w) : Shadow w w where
  same := rfl
  version := Nat.le_refl _
  bytes := Nat.le_refl _
  cachedPast head mem := by
    rcases rest.cached with empty | current
    · rw [empty] at mem
      cases mem
    · rw [current] at mem
      obtain rfl := Option.some.inj mem
      exact Nat.le_refl _
  heldPast head mem := by
    rw [rest.held] at mem
    cases mem
  cachedCurrent := rest.cached
  heldCurrent current := current

section Unseen

variable [Sha256]

/-- With room the checks of an append do not look at the coordinates. -/
theorem HasRoom.validate {version bytes : Nat} {event : StateEvent}
    (room : HasRoom (version, bytes) event) (eventId : EventId) (threadId : ThreadId)
    (recordedAtMs : UInt64) :
    validatePendingEvent ⟨eventId, threadId, version, bytes, recordedAtMs, event⟩ = (do
      validateStateId "event" eventId
      validateStateId "thread" threadId
      validateStateEvent event
      validateStateEventSchema event stateEventSchemaVersion
      encodeStateEvent event) := by
  obtain ⟨below, fits⟩ := room
  have retained : ¬ maxStateRecoveryEvents ≤ version := by
    unfold eventLimit at below
    split at below <;> simp [maxStateRecoveryEvents, stateThreadEventLimit,
      stateTerminalEventReserve] at below ⊢ <;> omega
  have general : (decide (stateThreadEventLimit - stateTerminalEventReserve ≤ version) &&
      !event.isTerminal) = false := by
    unfold eventLimit at below
    cases terminal : event.isTerminal with
    | true => simp
    | false =>
      simp only [terminal, Bool.false_eq_true, if_false] at below
      simp
      omega
  unfold validatePendingEvent
  simp only [retained, general, decide_false, rejectIf_false, ok_bind]
  cases encoded : encodeStateEvent event with
  | error error => simp
  | ok charge =>
    have light := fits charge encoded
    have bounded : ¬ UInt64.size ≤ bytes + charge := by
      unfold recoveryByteLimit at light
      split at light <;> simp [stateThreadRecoveryByteLimit, stateTerminalRecoveryByteReserve,
        UInt64.size] at light ⊢ <;> omega
    have within : ¬ (if event.isTerminal then stateThreadRecoveryByteLimit
        else stateThreadRecoveryByteLimit - stateTerminalRecoveryByteReserve) <
        bytes + charge := by
      unfold recoveryByteLimit at light
      omega
    simp [bounded, within]

/-! ## The condition -/

/-- No metadata disturbs a call: a commit is made against the current head and
finds room, and the capacity of the Thread suffices. -/
def Undisturbed (w : World) : RuntimeCall → Prop
  | .commit _ _ event => w.held = some w.coordinates ∧ HasRoom w.coordinates event
  | .requireCapacity => w.capacityCheck = .ok ()
  | _ => True

instance (w : World) : (c : RuntimeCall) → Decidable (Undisturbed w c)
  | .commit _ _ event =>
    inferInstanceAs (Decidable (w.held = some w.coordinates ∧ HasRoom w.coordinates event))
  | .requireCapacity => decidable_of_iff (isOk w.capacityCheck = true) isOk_unit
  | .loadThread | .loadEvents | .loadProjection | .streamHead _ | .stamp | .now | .instant _
  | .claimThread | .registerControl _ | .release | .lock _ | .unlock _ | .acceptsWork
  | .isCancelled _ | .coolingModels | .invoke _ _ _ | .lookupTombstone _
  | .recordTombstone _ _ _ | .enqueueRepairOp _ => isTrue trivial

/-! ## Running without the metadata -/

namespace Shadow

variable {w v : World}

variable {thread : StoredThread} {w' : World}

theorem metadata (shadow : Shadow w v) (step : MetadataStep thread w w') : Shadow w' v := by
  obtain ⟨same, version, bytes, cachedPast, heldPast, cachedCurrent, heldCurrent⟩ := shadow
  cases step with
  | append event eventId recordedAtMs charge =>
    refine ⟨same, Nat.le_succ_of_le version, Nat.le_add_right_of_le bytes,
      fun head mem => Nat.le_succ_of_le (cachedPast head mem),
      fun head mem => Nat.le_succ_of_le (heldPast head mem), cachedCurrent, fun current => ?_⟩
    -- the head that is held was read before the event
    have := heldPast _ current
    simp [World.coordinates] at this
  | publish cached past =>
    exact ⟨same, version, bytes, past, heldPast, cachedCurrent, heldCurrent⟩

theorem relies (shadow : Shadow w v) (relied : (amongMetadata thread).rely w w') :
    ∃ v', (alone thread).rely v v' ∧ Shadow w' v' := by
  induction relied with
  | refl => exact ⟨v, .refl, shadow⟩
  | tail _ step ih =>
    obtain ⟨u, relied, shadow⟩ := ih
    rcases step with signalled | written
    · obtain ⟨v', signalled, shadow⟩ := shadow.signal signalled
      exact ⟨v', relied.tail signalled, shadow⟩
    · exact ⟨u, relied, shadow.metadata written⟩

/-- A commit against the current head succeeds, or fails, in both worlds. -/
theorem commit_eq (shadow : Shadow w v) {eventId : EventId} {recordedAtMs : UInt64}
    {event : StateEvent} (undisturbed : Undisturbed w (.commit eventId recordedAtMs event)) :
    (∃ charge,
      w.commit thread eventId recordedAtMs event =
        .ok ((w.store thread.id event).advance eventId charge) ∧
      v.commit thread eventId recordedAtMs event =
        .ok ((v.store thread.id event).advance eventId charge)) ∨
    ∃ error, w.commit thread eventId recordedAtMs event = .error error ∧
      v.commit thread eventId recordedAtMs event = .error error := by
  obtain ⟨current, room⟩ := undisturbed
  have current' := shadow.heldCurrent current
  have room' : HasRoom v.coordinates event := room.mono shadow.version shadow.bytes
  have ids : v.eventIds = w.eventIds := by rw [shadow.same]
  simp only [World.commit, current, current', Option.getD_some, World.coordinates,
    room.validate, room'.validate, ids]
  generalize (do
    validateStateId "event" eventId
    validateStateId "thread" thread.id
    validateStateEvent event
    validateStateEventSchema event stateEventSchemaVersion
    encodeStateEvent event) = validated
  cases validated with
  | error error => exact .inr ⟨error, rfl, rfl⟩
  | ok charge =>
    by_cases reused : eventId ∈ w.eventIds
    · right
      simp [reused, rejectIf]
    · left
      exact ⟨charge, by simp [reused, validateStreamVersion, validateStreamRecoveryBytes]⟩

/-- **Calls.**  An undisturbed call can be answered alike without the metadata. -/
theorem effect (shadow : Shadow w v) {c : RuntimeCall} {reply : RuntimeReply c}
    (undisturbed : Undisturbed w c) (effect : World.Effect thread w c reply w') :
    ∃ v', World.Effect thread v c reply v' ∧ Shadow w' v' := by
  cases c with
  | loadThread =>
    obtain ⟨rfl, rfl⟩ := effect
    exact ⟨_, ⟨shadow.turns_eq.symm, rfl⟩, shadow.cacheHead⟩
  | loadEvents =>
    obtain ⟨rfl, rfl⟩ := effect
    exact ⟨_, ⟨shadow.turns_eq.symm, rfl⟩, shadow⟩
  | loadProjection =>
    obtain ⟨rfl, rfl⟩ := effect
    exact ⟨_, ⟨shadow.turns_eq.symm, rfl⟩, shadow.readHead w.coordinates (Nat.le_refl _)⟩
  | streamHead refresh =>
    obtain ⟨rfl, rfl⟩ := effect
    cases refresh with
    | true =>
      exact ⟨_, ⟨shadow.headView_eq.symm, rfl⟩,
        shadow.cacheHead.readHead w.coordinates (Nat.le_refl _)⟩
    | false => exact ⟨_, ⟨shadow.headView_eq.symm, rfl⟩, shadow.readCached⟩
  | requireCapacity =>
    obtain ⟨rfl, rfl⟩ := effect
    have enough : v.capacityCheck = .ok () := by
      have capacity : w.capacityCheck = .ok () := undisturbed
      simp only [World.capacityCheck, rejectIf_eq_ok, decide_eq_false_iff_not] at capacity ⊢
      have := shadow.version
      omega
    exact ⟨_, ⟨undisturbed.trans enough.symm, rfl⟩, shadow.cacheHead⟩
  | commit eventId recordedAtMs event =>
    rcases shadow.commit_eq undisturbed with ⟨charge, here, there⟩ | ⟨error, here, there⟩
    · cases reply with
      | ok =>
        obtain rfl := Except.ok.inj (here.symm.trans effect)
        exact ⟨_, there, shadow.advance thread.id event eventId charge⟩
      | error error => cases here.symm.trans effect.1
    · cases reply with
      | ok => cases here.symm.trans effect
      | error error' =>
        obtain ⟨failed, rfl⟩ := effect
        obtain rfl := Except.error.inj (here.symm.trans failed)
        refine ⟨_, ⟨there, rfl⟩, ?_⟩
        split
        · exact shadow.invalidate
        · exact shadow
  | stamp =>
    obtain ⟨fresh, valid, rfl⟩ := effect
    have used : v.usedIds = w.usedIds := by rw [shadow.same]
    refine ⟨_, ⟨used ▸ fresh, valid, rfl⟩, shadow.change ⟨rfl, rfl, rfl⟩ ?_⟩
    rw [shadow.same]
  | now | instant | coolingModels | enqueueRepairOp | invoke =>
    obtain rfl := effect
    exact ⟨v, rfl, shadow⟩
  | claimThread =>
    have claimed : v.claimed = w.claimed := by rw [shadow.same]
    cases reply with
    | ok =>
      obtain ⟨free, rfl⟩ := effect
      refine ⟨_, ⟨claimed.trans free, rfl⟩, shadow.change ⟨rfl, rfl, rfl⟩ ?_⟩
      rw [shadow.same]
    | error error =>
      obtain ⟨rfl, reason⟩ := effect
      exact ⟨v, ⟨rfl, claimed ▸ reason⟩, shadow⟩
  | registerControl control =>
    have controls : v.control = w.control := by rw [shadow.same]
    cases reply with
    | ok =>
      obtain ⟨free, rfl⟩ := effect
      refine ⟨_, ⟨controls.trans free, rfl⟩, shadow.change ⟨rfl, rfl, rfl⟩ ?_⟩
      rw [shadow.same]
    | error error =>
      obtain ⟨taken, rfl, reason⟩ := effect
      exact ⟨v, ⟨controls ▸ taken, rfl, reason⟩, shadow⟩
  | release =>
    obtain rfl := effect
    refine ⟨_, rfl, shadow.change ⟨rfl, rfl, rfl⟩ ?_⟩
    rw [shadow.same]
  | lock operation =>
    have controls : v.control = w.control := by rw [shadow.same]
    have locked : v.locked = w.locked := by rw [shadow.same]
    cases reply with
    | ok control =>
      obtain ⟨free, found, rfl⟩ := effect
      refine ⟨_, ⟨locked.trans free, controls.trans found, rfl⟩,
        shadow.change ⟨rfl, rfl, rfl⟩ ?_⟩
      rw [shadow.same]
    | error error =>
      obtain ⟨none, rfl, reason⟩ := effect
      exact ⟨v, ⟨controls.trans none, rfl, reason⟩, shadow⟩
  | unlock control =>
    obtain rfl := effect
    refine ⟨_, rfl, shadow.change ⟨rfl, rfl, rfl⟩ ?_⟩
    rw [shadow.same]
  | acceptsWork =>
    obtain ⟨answer, rfl⟩ := effect
    exact ⟨v, ⟨answer.trans (by rw [shadow.same]), rfl⟩, shadow⟩
  | isCancelled point =>
    obtain ⟨answer, rfl⟩ := effect
    exact ⟨v, ⟨answer.trans (by rw [shadow.same]), rfl⟩, shadow⟩
  | lookupTombstone key =>
    obtain ⟨unchanged, found⟩ := effect
    have tombstones : v.tombstones = w.tombstones := by rw [shadow.same]
    exact ⟨v, ⟨rfl, tombstones ▸ found⟩, unchanged ▸ shadow⟩
  | recordTombstone key reason atMs =>
    obtain rfl := effect
    refine ⟨_, rfl, shadow.change ⟨rfl, rfl, rfl⟩ ?_⟩
    rw [shadow.same]

theorem answers (shadow : Shadow w v) {c : RuntimeCall} {reply : RuntimeReply c}
    (executes : ((amongMetadata thread).where Undisturbed).exec w c reply w') :
    ∃ v', (alone thread).exec v c reply v' ∧ Shadow w' v' := by
  obtain ⟨undisturbed, u, effect, rfl⟩ := executes
  obtain ⟨u', effect', shadow'⟩ := shadow.effect undisturbed effect
  refine ⟨_, ⟨u', effect', rfl⟩, shadow'.change ⟨rfl, rfl, rfl⟩ ?_⟩
  have seen : v.seen = w.seen := by rw [shadow.same]
  rw [seen, shadow'.same]

end Shadow

/-- **Metadata writes are not seen.**  A run of `execute_turn` among metadata
writes, in which they disturb no call, is a run without them: the same calls with
the same answers, the same outcome and the same Turns. -/
theorem metadata_writes_unseen (x : Execution) (entry : TurnEntry) (mode : TurnExecutionMode)
    {w w' : World} {trace : Trace RuntimeCall RuntimeReply}
    {outcome : Except HarnessError TurnExecutionResult} (rest : AtRest w)
    (runs : Task.Against ((amongMetadata x.thread).where Undisturbed)
      (executeTurn x entry mode).run w trace outcome w') :
    ∃ v, Task.Against (alone x.thread) (executeTurn x entry mode).run w trace outcome v ∧
      v.turns = w'.turns := by
  obtain ⟨v, runs', shadow⟩ := Task.Against.simulate (R := Shadow)
    (S := (amongMetadata x.thread).where Undisturbed) (T := alone x.thread)
    (fun relied shadow => Shadow.relies shadow relied)
    (fun executes shadow => Shadow.answers shadow executes) runs rest.shadow
  exact ⟨v, runs', shadow.turns_eq⟩

end Unseen

/-! ## One Turn, cancelled while its context is compiled -/

section Sample

attribute [local instance] blankSha256

/-- The call that starts the Turn. -/
def sampleTask : RuntimeM TurnExecutionResult :=
  executeTurn plainExecution (.start "hello") .blocking

/-- A name change before the given call, and the token set before the first. -/
def renameBefore (call : Nat) : List (List MetadataAction) :=
  [.signalled .cancel] :: (List.replicate call [] ++
    [.rename (some "name") "event-1" 1000, .publish] :: List.replicate 60 [])

/-- How a run ended and left the Turn. -/
def endsWith (error : HarnessError) (status : TurnStatus) (items : Nat)
    (run : Option (Except HarnessError TurnExecutionResult × World)) : Bool :=
  match run with
  | some (.error error', w) => decide (error' = error) &&
      decide (w.current.map (fun turn => (turn.status, turn.items.length)) = some (status, items))
  | _ => false

theorem endsWith_eq {error : HarnessError} {status : TurnStatus} {items : Nat}
    {run : Option (Except HarnessError TurnExecutionResult × World)}
    (ends : endsWith error status items run = true) : ∃ w, run = some (.error error, w) ∧
      w.current.map (fun turn => (turn.status, turn.items.length)) = some (status, items) := by
  unfold endsWith at ends
  split at ends
  · rename_i error' w
    simp only [Bool.and_eq_true, decide_eq_true_iff] at ends
    obtain ⟨same, left⟩ := ends
    exact ⟨w, by rw [same], left⟩
  · cases ends

theorem metadata_writes_unseen_renamed : ∃ trace w v,
    Task.Against ((amongMetadata plainExecution.thread).where Undisturbed) sampleTask.run
      plainWorld trace (.error (.cancelled .context)) w ∧
    Task.Against (alone plainExecution.thread) sampleTask.run plainWorld trace
      (.error (.cancelled .context)) v ∧
    v.turns = w.turns := by
  have ends : endsWith (.cancelled .context) .cancelled 3
      (plainOracle.play plainExecution.thread (MetadataAction.act plainExecution.thread)
        Undisturbed sampleTask (renameBefore 12) plainWorld) = true := by decide +kernel
  obtain ⟨w, played, -⟩ := endsWith_eq ends
  obtain ⟨trace, runs⟩ := Oracle.play_runs MetadataAction.act_step played
  obtain ⟨v, runs', same⟩ := metadata_writes_unseen plainExecution (.start "hello") .blocking
    ⟨rfl, .inl rfl⟩ runs
  exact ⟨trace, w, v, runs, runs', same⟩

/-- Without a name change the Turn is finished as cancelled with three Items.  A
name change between the head and the commit of its first Item finishes it as
failed with none. -/
theorem name_change_fails_turn :
    (∃ trace w, Task.Against (alone plainExecution.thread) sampleTask.run plainWorld trace
        (.error (.cancelled .context)) w ∧
      w.current.map (fun turn => (turn.status, turn.items.length)) = some (.cancelled, 3)) ∧
    ∃ trace w, Task.Against (amongMetadata plainExecution.thread) sampleTask.run plainWorld trace
        (.error (.stateConflict "thread-1" 2 3)) w ∧
      w.current.map (fun turn => (turn.status, turn.items.length)) = some (.failed, 0) := by
  have cancelled : endsWith (.cancelled .context) .cancelled 3
      (plainOracle.play plainExecution.thread Signal.act (fun _ _ => True) sampleTask
        ([.cancel] :: List.replicate 60 []) plainWorld) = true := by decide +kernel
  have failed : endsWith (.stateConflict "thread-1" 2 3) .failed 0
      (plainOracle.play plainExecution.thread (MetadataAction.act plainExecution.thread)
        (fun _ _ => True) sampleTask (renameBefore 11) plainWorld) = true := by decide +kernel
  obtain ⟨w, played, left⟩ := endsWith_eq cancelled
  obtain ⟨trace, runs⟩ := Oracle.play_runs Signal.act_step played
  obtain ⟨w', played', left'⟩ := endsWith_eq failed
  obtain ⟨trace', runs'⟩ := Oracle.play_runs MetadataAction.act_step played'
  exact ⟨⟨trace, w, runs.of_where, left⟩, trace', w', runs'.of_where, left'⟩

end Sample

end YHarness.Runtime

/-
# YHarness.Model.AnthropicStream -- what a whole stream does to the decoder

A computation is *calm* when it does not panic.  All of the decoder is, except writing to a
block that is no object, and that takes an event that is misplaced (`Reached.calm`).  So a
stream whose events are in their places never panics, is accepted only where it is well
formed, and says the same when it is cut at its `message_stop` (`stream_sound`).
-/
import YHarness.Model.AnthropicGrammar

namespace YHarness.Model.Anthropic

open YHarness.Lib YHarness.Kernel YHarness.Runtime

set_option autoImplicit false

/-! ## Computations that do not panic -/

section Calm

variable {α β : Type}

def Calm (x : Except StreamFailure α) : Prop :=
  x ≠ .error .panicked

theorem calm_ok (a : α) : Calm (.ok a : Except StreamFailure α) :=
  nofun

theorem calm_failed (e : HarnessError) : Calm (.error (.failed e) : Except StreamFailure α) :=
  nofun

variable {f : α → Except StreamFailure β}

theorem Calm.bind {x : Except StreamFailure α} (first : Calm x) (rest : ∀ a, x = .ok a → Calm (f a)) :
    Calm (x >>= f) := by
  cases x with
  | error e =>
    rintro ⟨⟩
    exact first rfl
  | ok a => exact rest a rfl

theorem calm_orError (e : HarnessError) (o : Option α) : Calm (orError (.failed e) o) := by
  cases o with
  | none => exact nofun
  | some a => exact nofun

theorem calm_rejectIf (bad : Bool) (e : HarnessError) : Calm (rejectIf bad (.failed e)) := by
  cases bad with
  | false => exact nofun
  | true => exact nofun

theorem calm_mapError {ε : Type} (x : Except ε α) (message : ε → HarnessError) :
    Calm (x.mapError fun e => .failed (message e)) := by
  cases x with
  | error e => exact nofun
  | ok a => exact nofun

theorem calm_foldlM {f : β → α → Except StreamFailure β} (calm : ∀ b a, Calm (f b a))
    (xs : List α) (b : β) : Calm (xs.foldlM f b) := by
  induction xs generalizing b with
  | nil => exact calm_ok b
  | cons x xs ih =>
    rw [List.foldlM_cons]
    exact (calm b x).bind fun b _ => ih b

theorem calm_mapM (calm : ∀ a, Calm (f a)) (xs : List α) :
    Calm (xs.mapM f) := by
  induction xs with
  | nil => exact calm_ok []
  | cons x xs ih =>
    rw [List.mapM_cons]
    exact (calm x).bind fun y _ => ih.bind fun ys _ => calm_ok _

end Calm

/-! ## The whole message -/

theorem readBlock_calm (read : Blocks) (block : Json) : Calm (readBlock read block) := by
  refine (calm_orError _ _).bind fun fields _ => ?_
  split
  · exact (calm_orError _ _).bind fun value _ => calm_ok _
  · refine (calm_orError _ _).bind fun callId _ => (calm_orError _ _).bind fun name _ => ?_
    exact (calm_orError _ _).bind fun input _ => calm_ok _
  · exact calm_ok _
  · exact calm_failed _

theorem settleOutput_calm (stopReason : String) (read : Blocks) :
    Calm (settleOutput stopReason read) := by
  have output (calls : List ModelToolCall) : Calm (callsToOutput calls) := by
    unfold callsToOutput Model.callsToOutput
    split
    · exact calm_ok _
    · exact (calm_rejectIf _ _).bind fun _ _ => calm_ok _
  unfold settleOutput
  split
  · exact (calm_rejectIf _ _).bind fun _ _ => calm_ok _
  · exact (calm_rejectIf _ _).bind fun _ _ => (output _).bind fun _ _ => calm_ok _

theorem decodeUsage_calm (usage : Option Json) : Calm (decodeUsage usage) := by
  have optional (usage : List (String × Json)) (name : String) :
      Calm (optionalUnsigned usage name) := by
    unfold optionalUnsigned Model.optionalUnsigned
    split
    · exact calm_ok _
    · exact calm_orError _ _
  unfold decodeUsage
  split
  · exact calm_ok _
  · refine (calm_orError _ _).bind fun usage _ => (calm_orError _ _).bind fun input _ => ?_
    exact (calm_orError _ _).bind fun output _ => (optional _ _).bind fun cached _ => calm_ok _

theorem decodeResponseValue_calm (root : Json) (headerRequestId : Option String) :
    Calm (decodeResponseValue root headerRequestId) := by
  refine (calm_mapError _ _).bind fun _ _ => (calm_orError _ _).bind fun object _ => ?_
  refine (calm_rejectIf _ _).bind fun _ _ => (calm_orError _ _).bind fun content _ => ?_
  refine (calm_foldlM readBlock_calm content _).bind fun read _ => ?_
  refine (calm_orError _ _).bind fun stopReason _ => (calm_rejectIf _ _).bind fun _ _ => ?_
  refine (calm_rejectIf _ _).bind fun _ _ => (settleOutput_calm _ _).bind fun output _ => ?_
  have rest (continuation : Option ModelContinuation) : Calm (do
      let usage ← decodeUsage (field "usage" object)
      let providerModel ← requiredString object "model" "message"
      let response : ModelResponse := ⟨output.1, some providerModel,
        headerRequestId.or ((field "id" object).bind Json.asStr), continuation⟩
      (validateModelResponse response).mapError fun error => fails error.display
      .ok (⟨response, usage⟩ : ProviderResponse)) := by
    refine (decodeUsage_calm _).bind fun usage _ => (calm_orError _ _).bind fun model _ => ?_
    exact (calm_mapError _ _).bind fun _ _ => calm_ok _
  dsimp only
  split
  · exact rest none
  · exact (calm_mapError _ _).bind fun _ _ => rest _

theorem settle_calm (requestId : Option String) (m : Message) : Calm (m.settle requestId) := by
  refine (calm_rejectIf _ _).bind fun _ _ => (calm_orError _ _).bind fun message _ => ?_
  refine (calm_mapM (fun index => calm_orError _ _) _).bind fun blocks _ => ?_
  exact decodeResponseValue_calm _ _

/-- A line that cannot be framed is an error. -/
theorem consumeLine_calm (parse : List UInt8 → Option Json) (maximum : Nat) (line : List UInt8)
    (frame : SseFrame) : Calm (AnthropicSseDecoder.consumeLine parse maximum line frame) := by
  unfold AnthropicSseDecoder.consumeLine
  split
  · unfold AnthropicSseDecoder.finishEvent
    split
    · exact calm_ok _
    · refine Calm.bind ((calm_rejectIf _ _).bind fun _ _ => calm_ok _) fun frame _ => ?_
      refine (calm_orError _ _).bind fun value _ => (calm_mapError _ _).bind fun _ _ => ?_
      exact (calm_orError _ _).bind fun kind _ => (calm_rejectIf _ _).bind fun _ _ => calm_ok _
  · split
    · exact (calm_orError _ _).bind fun name _ => (calm_rejectIf _ _).bind fun _ _ => calm_ok _
    · split
      · refine Calm.bind ((calm_rejectIf _ _).bind fun _ _ => calm_ok _) fun frame _ => ?_
        exact calm_ok _
      · exact calm_ok _

/-! ## One event -/

section Events

variable {before : List StreamEvent} {m next : Message} {parse : List UInt8 → Option Json}
  {maximum : Nat} {event : String × Json}

/-- The block under an index that was started. -/
theorem Reached.type_of_held (reached : Reached before m) {index : Nat} {block : Json}
    (held : m.blocks[index]? = some block) :
    .blockStart index (Json.getStr "type" block) ∈ before := by
  obtain ⟨type, started⟩ := (reached.blocks index).1 (by rw [held]; rfl)
  rw [reached.types index type block started held]
  exact started

theorem setIndex_calm {key : String} {written block : Json}
    (typed : Json.getStr "type" block ≠ none) : Calm (setIndex key written block) :=
  fun panics => typed (setIndex_panics panics)

theorem Reached.textDelta_calm (reached : Reached before m) {index : Nat}
    (placed : ¬ Misplaced before (.delta index .text)) (delta : List (String × Json)) :
    Calm (m.textDelta index delta) := by
  refine (calm_orError _ _).bind fun text _ => (calm_orError _ _).bind fun block held => ?_
  refine Calm.bind (setIndex_calm fun untyped => placed ⟨none, ?_, nofun⟩) fun _ _ => calm_ok _
  rw [orError_eq_ok] at held
  exact untyped ▸ reached.type_of_held held

theorem inputJsonDelta_calm (index : Nat) (delta : List (String × Json)) :
    Calm (m.inputJsonDelta maximum index delta) := by
  refine (calm_orError _ _).bind fun fragment _ => (calm_orError _ _).bind fun input _ => ?_
  exact (calm_rejectIf _ _).bind fun _ _ => calm_ok _

theorem blockDelta_calm (name : String) (index : Nat) (delta : List (String × Json)) :
    Calm (m.blockDelta name index delta) := by
  refine Calm.bind ?_ fun _ _ => calm_ok _
  exact (calm_orError _ _).bind fun fragment _ => (calm_orError _ _).bind fun fields _ => calm_ok _

theorem Reached.contentBlockDelta_calm (reached : Reached before m) {value : Json}
    (placed : ∀ index, eventIndex value = .ok index → deltaKind value = some .text →
      ¬ Misplaced before (.delta index .text)) : Calm (m.contentBlockDelta maximum value) := by
  refine (calm_orError _ _).bind fun index indexed => (calm_rejectIf _ _).bind fun _ _ => ?_
  refine (calm_orError _ _).bind fun delta held => ?_
  rw [orError_eq_ok] at held
  split
  · rename_i typed
    refine reached.textDelta_calm (placed index indexed ?_) delta
    unfold deltaKind
    rw [held, Option.bind_some, typed]
    rfl
  · exact inputJsonDelta_calm index delta
  · exact blockDelta_calm "thinking" index delta
  · exact blockDelta_calm "signature" index delta
  · exact calm_failed _
  · exact calm_failed _

/-- The block of a Tool input is an object. -/
theorem Reached.contentBlockStop_calm (reached : Reached before m) (value : Json) :
    Calm (m.contentBlockStop parse value) := by
  refine (calm_orError _ _).bind fun index _ => (calm_rejectIf _ _).bind fun _ _ => ?_
  dsimp only
  split
  · exact calm_ok _
  · rename_i encoded open'
    have tool := ((reached.inputs index).1 (by rw [open']; rfl)).1
    have input : Calm (Message.decodeInput parse encoded) := by
      unfold Message.decodeInput
      split
      · exact calm_ok _
      · exact calm_orError _ _
    refine input.bind fun input _ => (calm_orError _ _).bind fun block held => ?_
    refine Calm.bind (setIndex_calm ?_) fun _ _ => calm_ok _
    rw [orError_eq_ok] at held
    rw [reached.types index _ block tool held]
    exact nofun

theorem messageDelta_calm (value : Json) : Calm (m.messageDelta value) := by
  refine (calm_orError _ _).bind fun message _ => ?_
  cases usage : (Json.get "usage" value).bind Json.asObject with
  | none => exact calm_ok _
  | some usage => exact (calm_orError _ _).bind fun target _ => calm_ok _

/-- **Only a misplaced event panics.** -/
theorem Reached.calm (reached : Reached before m) (placed : ¬ Misplaced before (streamEvent event)) :
    Calm (m.consumeEvent parse maximum event.1 event.2) := by
  obtain ⟨kind, value⟩ := event
  unfold Message.consumeEvent
  dsimp only
  split
  · exact (calm_rejectIf _ _).bind fun _ _ => (calm_orError _ _).bind fun _ _ => calm_ok _
  · refine (calm_orError _ _).bind fun index _ => (calm_rejectIf _ _).bind fun _ _ => ?_
    exact (calm_orError _ _).bind fun block _ => calm_ok _
  · refine reached.contentBlockDelta_calm fun index indexed text => ?_
    have same : streamEvent ("content_block_delta", value) = .delta index .text := by
      simp only [streamEvent, indexed, text]
    exact same ▸ placed
  · exact reached.contentBlockStop_calm value
  · exact messageDelta_calm value
  · exact (calm_rejectIf _ _).bind fun _ _ => calm_ok _
  · exact calm_failed _
  · exact calm_ok _

/-- **An event that is accepted in its place** is allowed there. -/
theorem Reached.step (reached : Reached before m)
    (done : m.consumeEvent parse maximum event.1 event.2 = .ok next)
    (placed : ¬ Misplaced before (streamEvent event)) :
    Allowed before (streamEvent event) ∧ Reached (before ++ [streamEvent event]) next := by
  obtain ⟨kind, value⟩ := event
  unfold Message.consumeEvent at done
  dsimp only at done
  split at done
  · exact reached.messageStart done
  · obtain ⟨index, block, indexed, held, fresh, after⟩ := reached.contentBlockStart done
    have same : streamEvent ("content_block_start", value) =
        .blockStart index (Json.getStr "type" block) := by
      simp only [streamEvent, indexed, held]
    rw [same] at placed ⊢
    obtain ⟨started, running⟩ := not_or.1 placed
    exact ⟨⟨not_not.1 started, running, fresh⟩, after⟩
  · obtain ⟨index, kind, indexed, typed, open', after⟩ := reached.contentBlockDelta done
    have same : streamEvent ("content_block_delta", value) = .delta index kind := by
      simp only [streamEvent, indexed, typed]
    rw [same] at placed ⊢
    exact ⟨after.allowed open' placed, after.reached.quiet trivial⟩
  · obtain ⟨index, indexed, allowed, after⟩ := reached.contentBlockStop done
    have same : streamEvent ("content_block_stop", value) = .blockStop index := by
      simp only [streamEvent, indexed]
    rw [same]
    exact ⟨allowed, after⟩
  · obtain ⟨started, after⟩ := reached.messageDelta done
    exact ⟨⟨started, placed⟩, after⟩
  · exact reached.messageStop done
  · cases done
  · have same : streamEvent (kind, value) = .ignored := by
      simp only [streamEvent]
    cases done
    rw [same]
    exact ⟨trivial, reached.quiet trivial⟩

end Events

/-! ## Whole streams -/

section Streams

variable (parse : List UInt8 → Option Json) (maximum : Nat)

/-- What the decoder makes of the events of a stream. -/
def consumeEvents (events : List (String × Json)) (m : Message) :
    Except StreamFailure Unit × Message :=
  consumeAll (stepOf fun event m => m.consumeEvent parse maximum event.1 event.2) events m

/-- No event that the decoder comes to is misplaced. -/
def InPlace (events : List (String × Json)) : Prop :=
  ∀ before event after, events = before ++ event :: after →
    (consumeEvents parse maximum before .new).1 = .ok () →
      ¬ Misplaced (before.map streamEvent) (streamEvent event)

variable {parse maximum} {events : List (String × Json)}

theorem InPlace.prefix {more : List (String × Json)}
    (placed : InPlace parse maximum (events ++ more)) : InPlace parse maximum events := by
  rintro before event after rfl consumed
  exact placed before event (after ++ more) (by simp) consumed

/-- **The events of a stream in their places** are spelled out as far as they are consumed, and
none of them panics. -/
theorem consumeEvents_sound (placed : InPlace parse maximum events) :
    Calm (consumeEvents parse maximum events .new).1 ∧
      ∀ m, consumeEvents parse maximum events .new = (.ok (), m) →
        Spelled (events.map streamEvent) ∧ Reached (events.map streamEvent) m := by
  induction events using List.reverseRecOn with
  | nil =>
    refine ⟨calm_ok (), ?_⟩
    rintro m ⟨⟩
    exact ⟨.nil, .new⟩
  | append_singleton events event ih =>
    obtain ⟨calm, sound⟩ := ih placed.prefix
    have here := placed events event [] rfl
    rw [consumeEvents, consumeAll_concat, ← consumeEvents]
    match consumed : consumeEvents parse maximum events .new with
    | (.error e, m) =>
      rw [consumed] at calm
      exact ⟨calm, nofun⟩
    | (.ok (), m) =>
      obtain ⟨spelled, reached⟩ := sound m consumed
      rw [consumed] at here
      have inPlace := here rfl
      have calm : Calm (m.consumeEvent parse maximum event.1 event.2) := reached.calm inPlace
      dsimp only [stepOf]
      rw [List.map_append, List.map_singleton]
      match done : m.consumeEvent parse maximum event.1 event.2 with
      | .error e =>
        rw [done] at calm
        exact ⟨fun panics => calm (by cases panics; rfl), nofun⟩
      | .ok next =>
        refine ⟨calm_ok (), ?_⟩
        rintro m ⟨⟩
        obtain ⟨allowed, after⟩ := reached.step done inPlace
        exact ⟨spelled.concat allowed, after⟩

/-- After the end nothing counts. -/
theorem Spelled.ignored {before after : List StreamEvent}
    (spelled : Spelled (before ++ .messageStop :: after)) : ∀ event ∈ after, event = .ignored := by
  have ended := spelled before .messageStop after rfl
  -- a block that was started was stopped before the end, and none is started after it
  have closed : ∀ more rest, after = more ++ rest → ∀ index type,
      .blockStart index type ∈ before ++ .messageStop :: more → .blockStop index ∈ before := by
    rintro more rest rfl index type started
    rw [List.mem_append, List.mem_cons] at started
    rcases started with earlier | here | later
    · exact ended.2.2 index type earlier
    · cases here
    · obtain ⟨first, second, rfl⟩ := List.append_of_mem later
      have allowed := spelled (before ++ .messageStop :: first) (.blockStart index type)
        (second ++ rest) (by simp)
      exact absurd (by simp) allowed.2.1
  intro event member
  obtain ⟨more, rest, rfl⟩ := List.append_of_mem member
  have allowed := spelled (before ++ .messageStop :: more) event rest (by simp)
  have stopped : .messageStop ∈ before ++ .messageStop :: more := by simp
  cases event with
  | messageStart => exact absurd (List.mem_append_left _ ended.1) allowed
  | blockStart index type => exact absurd stopped allowed.2.1
  | delta index kind =>
    exact absurd (List.mem_append_left _ (closed more _ rfl index _ allowed.1)) allowed.2
  | blockStop index =>
    obtain ⟨⟨type, started⟩, open'⟩ := allowed
    exact absurd (List.mem_append_left _ (closed more _ rfl index type started)) open'
  | messageDelta => exact absurd stopped allowed.2
  | messageStop => exact absurd stopped allowed.2.1
  | malformed => exact allowed.elim
  | ignored => rfl

theorem consumeEvent_ignored {event : String × Json} (ignored : streamEvent event = .ignored)
    (m : Message) : m.consumeEvent parse maximum event.1 event.2 = .ok m := by
  obtain ⟨kind, value⟩ := event
  unfold streamEvent at ignored
  unfold Message.consumeEvent
  dsimp only at ignored ⊢
  split at ignored
  all_goals first | cases ignored | skip
  · split at ignored <;> cases ignored
  · split at ignored <;> cases ignored
  · split at ignored <;> cases ignored
  · simp only

theorem consumeEvents_ignored {events : List (String × Json)}
    (ignored : ∀ event ∈ events, streamEvent event = .ignored) (m : Message) :
    consumeEvents parse maximum events m = (.ok (), m) := by
  induction events with
  | nil => rfl
  | cons event events ih =>
    rw [consumeEvents, consumeAll, stepOf, consumeEvent_ignored (ignored event List.mem_cons_self)]
    exact ih fun event member => ignored event (List.mem_cons_of_mem _ member)

variable {response : ProviderResponse} {spelled : List StreamEvent}

/-- **What settles is well formed.** -/
theorem Reached.wellFormed {m : Message} (reached : Reached spelled m) (grammar : Spelled spelled)
    {requestId : Option String} (settled : m.settle requestId = .ok response) :
    WellFormed spelled := by
  obtain ⟨boundary, settled⟩ := seq_eq_ok.1 settled
  obtain ⟨message, _, settled⟩ := bind_eq_ok.1 settled
  obtain ⟨blocks, dense, _⟩ := bind_eq_ok.1 settled
  rw [rejectIf_eq_ok, Bool.or_eq_false_iff, Bool.or_eq_false_iff, Bool.not_eq_false'] at boundary
  have held : ∀ index ∈ List.range m.blocks.size, (m.blocks[index]?).isSome = true := by
    intro index inside
    have each := List.Forall₂.flip (mapM_eq_ok.1 dense)
    obtain ⟨block, _, found⟩ := forall₂_exists_left each inside
    rw [orError_eq_ok] at found
    rw [found]
    rfl
  refine ⟨grammar, reached.stop.1 boundary.1.1, fun index type started earlier before => ?_⟩
  have inside := mem_of_size List.nodup_range held List.length_range
    ((reached.blocks index).2 ⟨type, started⟩)
  exact (reached.blocks earlier).1 (held earlier
    (List.mem_range.2 (before.trans (List.mem_range.1 inside))))

/-! ## The decoder -/

variable (parse maximum) (requestId : Option String) (chunks : List (List UInt8))

/-- What a stream that arrives in these chunks decodes to. -/
def decoded : Except StreamFailure ProviderResponse :=
  ((anthropicSseDecoder parse maximum requestId).decode chunks .new).1

/-- The events of the stream. -/
def streamEvents : List (String × Json) :=
  (anthropicSseDecoder parse maximum requestId).eventsOf chunks.flatten

/-- The events that the decoder comes to. -/
def takenEvents : List (String × Json) :=
  (anthropicSseDecoder parse maximum requestId).eventsTaken chunks

/-- What the decoder owes a stream: it does not panic, it accepts only what is well formed, and
says then what it would say without all that follows the `message_stop`. -/
structure Sound : Prop where
  alive : Calm (decoded parse maximum requestId chunks)
  wellFormed : ∀ response, decoded parse maximum requestId chunks = .ok response →
    WellFormed ((streamEvents parse maximum requestId chunks).map streamEvent)
  frozen : ∀ response, decoded parse maximum requestId chunks = .ok response →
    ∀ before stop after, streamEvents parse maximum requestId chunks = before ++ stop :: after →
      streamEvent stop = .messageStop →
        ∃ m, consumeEvents parse maximum (before ++ [stop]) .new = (.ok (), m) ∧
          m.settle requestId = .ok response

variable {parse maximum requestId chunks}

theorem takenEvents_eq (short : chunks.flatten.length ≤ maximum) :
    takenEvents parse maximum requestId chunks = streamEvents parse maximum requestId chunks :=
  if_pos short

/-- The frame after the last line. -/
def lastFrame (parse : List UInt8 → Option Json) (maximum : Nat) (requestId : Option String)
    (chunks : List (List UInt8)) : Except StreamFailure SseFrame :=
  let decoder := anthropicSseDecoder parse maximum requestId
  (SseDecoder.framed decoder.framer (decoder.linesOf chunks.flatten) .new).2

theorem decoded_eq (short : chunks.flatten.length ≤ maximum) :
    decoded parse maximum requestId chunks =
      match consumeEvents parse maximum (streamEvents parse maximum requestId chunks) .new with
      | (.error e, _) => .error e
      | (.ok (), m) => lastFrame parse maximum requestId chunks >>= fun _ => m.settle requestId := by
  have whole : consumeAll (anthropicSseDecoder parse maximum requestId).step
      ((anthropicSseDecoder parse maximum requestId).eventsOf chunks.flatten) .new =
        consumeEvents parse maximum (streamEvents parse maximum requestId chunks) .new := rfl
  rw [decoded, SseDecoder.decode_eq _ short, whole]
  match consumeEvents parse maximum (streamEvents parse maximum requestId chunks) .new with
  | (.error e, m) => rfl
  | (.ok (), m) =>
    show (SseDecoder.settles _ (lastFrame parse maximum requestId chunks, m)).1 = _
    match lastFrame parse maximum requestId chunks with
    | .error e => rfl
    | .ok frame => rfl

/-- A stream that is decoded was consumed to its end. -/
theorem consumed_of_decoded (accepted : decoded parse maximum requestId chunks = .ok response) :
    takenEvents parse maximum requestId chunks = streamEvents parse maximum requestId chunks ∧
      ∃ m, consumeEvents parse maximum (streamEvents parse maximum requestId chunks) .new =
        (.ok (), m) ∧ m.settle requestId = .ok response := by
  by_cases short : chunks.flatten.length ≤ maximum
  · rw [decoded_eq short] at accepted
    match consumed : consumeEvents parse maximum (streamEvents parse maximum requestId chunks) .new with
    | (.error e, m) =>
      rw [consumed] at accepted
      cases accepted
    | (.ok (), m) =>
      rw [consumed] at accepted
      obtain ⟨frame, _, settled⟩ := bind_eq_ok.1 accepted
      exact ⟨takenEvents_eq short, m, rfl, settled⟩
  · obtain ⟨e, failed, _⟩ := SseDecoder.decode_of_exceeds
      (anthropicSseDecoder parse maximum requestId) (Nat.lt_of_not_le short) .new
    rw [decoded, failed] at accepted
    cases accepted

/-- A stream whose events are in their places does not panic, however long it is. -/
theorem decoded_calm (placed : InPlace parse maximum (takenEvents parse maximum requestId chunks)) :
    Calm (decoded parse maximum requestId chunks) := by
  have framer : ¬ ∃ line frame, AnthropicSseDecoder.consumeLine parse maximum line frame =
      .error .panicked := by
    rintro ⟨line, frame, panics⟩
    exact consumeLine_calm parse maximum line frame panics
  by_cases short : chunks.flatten.length ≤ maximum
  · rw [takenEvents_eq short] at placed
    rw [decoded_eq short]
    have calm := (consumeEvents_sound placed).1
    match consumed : consumeEvents parse maximum (streamEvents parse maximum requestId chunks) .new with
    | (.error e, m) =>
      rw [consumed] at calm
      exact fun panics => calm (by cases panics; rfl)
    | (.ok (), m) =>
      exact Calm.bind (fun panics => framer (SseDecoder.framed_error panics)) fun _ _ =>
        settle_calm requestId m
  · obtain ⟨e, failed, cause⟩ := SseDecoder.decode_of_exceeds
      (anthropicSseDecoder parse maximum requestId) (Nat.lt_of_not_le short) .new
    rw [decoded, failed]
    rintro ⟨⟩
    rcases cause with long | panics | unframed
    · cases long
    · exact (consumeEvents_sound placed).1 panics
    · exact framer unframed

/-- **Hostile streams.**  Where no event that the decoder comes to is misplaced, the stream is
decoded soundly; and a stream that is not refused is decoded soundly only then. -/
theorem stream_sound (parse : List UInt8 → Option Json) (maximum : Nat)
    (requestId : Option String) (chunks : List (List UInt8)) :
    (InPlace parse maximum (takenEvents parse maximum requestId chunks) →
      Sound parse maximum requestId chunks) ∧
    ((∀ error, decoded parse maximum requestId chunks ≠ .error (.failed error)) →
      Sound parse maximum requestId chunks →
        InPlace parse maximum (takenEvents parse maximum requestId chunks)) := by
  constructor
  · intro placed
    refine ⟨decoded_calm placed, fun response accepted => ?_, fun response accepted => ?_⟩
    · obtain ⟨same, m, consumed, settled⟩ := consumed_of_decoded accepted
      rw [same] at placed
      obtain ⟨spelled, reached⟩ := (consumeEvents_sound placed).2 m consumed
      exact reached.wellFormed spelled settled
    · obtain ⟨same, m, consumed, settled⟩ := consumed_of_decoded accepted
      rw [same] at placed
      obtain ⟨spelled, _⟩ := (consumeEvents_sound placed).2 m consumed
      intro before stop after split ended
      rw [split, List.map_append, List.map_cons, ended] at spelled
      have ignored : ∀ m, consumeEvents parse maximum after m = (.ok (), m) :=
        consumeEvents_ignored fun event member => spelled.ignored _ (List.mem_map_of_mem member)
      rw [split, ← List.singleton_append, ← List.append_assoc, consumeEvents,
        consumeAll_append] at consumed
      match cut : consumeEvents parse maximum (before ++ [stop]) .new with
      | (.error e, m') =>
        rw [show consumeAll _ _ _ = _ from cut] at consumed
        cases consumed
      | (.ok (), m') =>
        rw [show consumeAll _ _ _ = _ from cut] at consumed
        have same := (ignored m').symm.trans consumed
        cases same
        exact ⟨m, rfl, settled⟩
  · intro accepted sound before event after split _
    match outcome : decoded parse maximum requestId chunks with
    | .error (.failed e) => exact absurd outcome (accepted e)
    | .error .panicked => exact absurd outcome sound.alive
    | .ok response =>
      have spelled := (sound.wellFormed response outcome).spelled
      rw [← (consumed_of_decoded outcome).1, split, List.map_append, List.map_cons] at spelled
      exact spelled.placed _ _ _ rfl

theorem inPlace_of_placed {events : List (String × Json)} (same : events.map streamEvent = spelled)
    (placed : Placed spelled) :
    InPlace parse maximum events := by
  rintro before event after rfl _
  exact placed _ _ (after.map streamEvent) (by rw [← same, List.map_append, List.map_cons])

end Streams

/-! ## Three streams -/

/-- The bytes of a stream of these events. -/
def streamOf (values : List Json) : List UInt8 :=
  values.flatMap fun value => utf8Bytes "data: " ++ value.encode ++ [newlineByte, newlineByte]

/-- A JSON reader, as far as these values go. -/
def readerOf (values : List Json) (bytes : List UInt8) : Option Json :=
  values.find? fun value => value.encode == bytes

def sampleStart : Json :=
  .obj [("message", .obj [("model", .str "claude"), ("role", .str "assistant"),
    ("stop_reason", .null), ("type", .str "message")]), ("type", .str "message_start")]

def sampleBlock (block : Json) : Json :=
  .obj [("content_block", block), ("index", .nat 0), ("type", .str "content_block_start")]

def sampleDelta : Json :=
  .obj [("delta", .obj [("text", .str "Hi"), ("type", .str "text_delta")]), ("index", .nat 0),
    ("type", .str "content_block_delta")]

def sampleBlockStop : Json :=
  .obj [("index", .nat 0), ("type", .str "content_block_stop")]

def sampleMessageDelta : Json :=
  .obj [("delta", .obj [("stop_reason", .str "end_turn")]), ("type", .str "message_delta")]

def sampleMessageStop : Json :=
  .obj [("type", .str "message_stop")]

def sampleStream : List Json :=
  [sampleStart, sampleBlock (.obj [("text", .str ""), ("type", .str "text")]), sampleDelta,
    sampleBlockStop, sampleMessageDelta, sampleMessageStop]

/-- The stop reason comes after the end. -/
def lateStream : List Json :=
  [sampleStart, sampleBlock (.obj [("text", .str ""), ("type", .str "text")]), sampleDelta,
    sampleBlockStop, sampleMessageStop, sampleMessageDelta]

/-- A block that is a string. -/
def untypedStream : List Json :=
  [sampleStart, sampleBlock (.str "text"), sampleDelta]

/-- A stream can panic, and one is accepted for what follows its end. -/
theorem hostile_streams_decoded :
    decoded (readerOf untypedStream) 4096 none [streamOf untypedStream] = .error .panicked ∧
      (decoded (readerOf lateStream) 4096 none [streamOf lateStream]).isOk = true ∧
      ¬ WellFormed ((streamEvents (readerOf lateStream) 4096 none [streamOf lateStream]).map
        streamEvent) := by
  refine ⟨?_, ?_, fun wellFormed => ?_⟩
  · rw [decoded_eq (by decide +kernel)]
    rfl
  · rw [decoded_eq (by decide +kernel)]
    decide +kernel
  · have events : (streamEvents (readerOf lateStream) 4096 none [streamOf lateStream]).map
        streamEvent = [.messageStart, .blockStart 0 (some "text"), .delta 0 .text, .blockStop 0,
          .messageStop] ++ [.messageDelta] := by decide +kernel
    exact (wellFormed.spelled _ _ [] events).2 (by decide)

def sampleEvents : List StreamEvent :=
  [.messageStart, .blockStart 0 (some "text"), .delta 0 .text, .blockStop 0, .messageDelta,
    .messageStop]

theorem sampleEvents_spelled : Spelled sampleEvents := by
  have one := Spelled.nil.concat (show Allowed [] .messageStart from nofun)
  have two := one.concat (show Allowed _ (.blockStart 0 (some "text")) by simp [Allowed])
  have three := two.concat (show Allowed _ (.delta 0 .text) by simp [Allowed, DeltaKind.blockType])
  have four := three.concat (show Allowed _ (.blockStop 0) by simp [Allowed])
  have five := four.concat (show Allowed _ .messageDelta by simp [Allowed])
  exact five.concat (show Allowed _ .messageStop by simp [Allowed])

theorem stream_sound_sample :
    Sound (readerOf sampleStream) 4096 none [streamOf sampleStream] ∧
      (decoded (readerOf sampleStream) 4096 none [streamOf sampleStream]).isOk = true := by
  constructor
  · have events : (takenEvents (readerOf sampleStream) 4096 none [streamOf sampleStream]).map
        streamEvent = sampleEvents := by decide +kernel
    exact (stream_sound (readerOf sampleStream) 4096 none [streamOf sampleStream]).1
      (inPlace_of_placed events sampleEvents_spelled.placed)
  · rw [decoded_eq (by decide +kernel)]
    decide +kernel

end YHarness.Model.Anthropic

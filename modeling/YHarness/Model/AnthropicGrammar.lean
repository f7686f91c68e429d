/-
# YHarness.Model.AnthropicGrammar -- which event streams the decoder accepts

`Spelled` is the grammar of a stream: one `message_start`, then blocks that are started
once, get deltas of their own kind only until they stop, and one `message_stop` after which
nothing counts.  The decoder checks most of it at each event; what it does not check is
`Misplaced`: a block that starts before the message or after its end, a `message_delta` after
the end, and a delta of text, thinking or signature at a block of another type.  The last
panics where the block is no object.

`Reached` relates the state of the decoder to the events before it; every accepted event
keeps it (`Reached.step`).
-/
import YHarness.Lib.JsonText
import YHarness.Model.Anthropic

namespace YHarness.Model.Anthropic

open YHarness.Lib YHarness.Kernel YHarness.Runtime

set_option autoImplicit false

/-! ## The grammar -/

inductive DeltaKind where
  | text | inputJson | thinking | signature
deriving DecidableEq

/-- The type of the blocks that a delta is for. -/
def DeltaKind.blockType : DeltaKind → String
  | text => "text"
  | inputJson => "tool_use"
  | thinking | signature => "thinking"

inductive StreamEvent where
  | messageStart
  | blockStart (index : Nat) (type : Option String)
  | delta (index : Nat) (kind : DeltaKind)
  | blockStop (index : Nat)
  | messageDelta
  | messageStop
  | malformed
  | ignored
deriving DecidableEq

def deltaKind (value : Json) : Option DeltaKind :=
  match (((Json.get "delta" value).bind Json.asObject).bind (field "type")).bind Json.asStr with
  | some "text_delta" => some .text
  | some "input_json_delta" => some .inputJson
  | some "thinking_delta" => some .thinking
  | some "signature_delta" => some .signature
  | _ => none

/-- What an event says of the structure of the stream. -/
def streamEvent (event : String × Json) : StreamEvent :=
  match event.1 with
  | "message_start" => .messageStart
  | "content_block_start" =>
    match eventIndex event.2, Json.get "content_block" event.2 with
    | .ok index, some block => .blockStart index (Json.getStr "type" block)
    | _, _ => .malformed
  | "content_block_delta" =>
    match eventIndex event.2, deltaKind event.2 with
    | .ok index, some kind => .delta index kind
    | _, _ => .malformed
  | "content_block_stop" =>
    match eventIndex event.2 with
    | .ok index => .blockStop index
    | .error _ => .malformed
  | "message_delta" => .messageDelta
  | "message_stop" => .messageStop
  | "error" => .malformed
  | _ => .ignored

/-- An event may follow these. -/
def Allowed (before : List StreamEvent) : StreamEvent → Prop
  | .messageStart => .messageStart ∉ before
  | .blockStart index _ => .messageStart ∈ before ∧ .messageStop ∉ before ∧
      ∀ type, .blockStart index type ∉ before
  | .delta index kind => .blockStart index (some kind.blockType) ∈ before ∧
      .blockStop index ∉ before
  | .blockStop index => (∃ type, .blockStart index type ∈ before) ∧ .blockStop index ∉ before
  | .messageDelta => .messageStart ∈ before ∧ .messageStop ∉ before
  | .messageStop => .messageStart ∈ before ∧ .messageStop ∉ before ∧
      ∀ index type, .blockStart index type ∈ before → .blockStop index ∈ before
  | .malformed => False
  | .ignored => True

/-- Every event is allowed where it stands. -/
def Spelled (events : List StreamEvent) : Prop :=
  ∀ before event after, events = before ++ event :: after → Allowed before event

/-- **A well-formed stream** is spelled out to its end, its blocks numbered from zero. -/
structure WellFormed (events : List StreamEvent) : Prop where
  spelled : Spelled events
  ended : .messageStop ∈ events
  contiguous : ∀ index type, .blockStart index type ∈ events → ∀ earlier < index,
    ∃ type, .blockStart earlier type ∈ events

/-- What the decoder does not check. -/
def Misplaced (before : List StreamEvent) : StreamEvent → Prop
  | .blockStart .. => .messageStart ∉ before ∨ .messageStop ∈ before
  | .messageDelta => .messageStop ∈ before
  | .delta _ .inputJson => False
  | .delta index kind => ∃ type, .blockStart index type ∈ before ∧ type ≠ some kind.blockType
  | _ => False

/-- No event is misplaced. -/
def Placed (events : List StreamEvent) : Prop :=
  ∀ before event after, events = before ++ event :: after → ¬ Misplaced before event

theorem Spelled.nil : Spelled [] := by
  intro before event after split
  simp at split

variable {events : List StreamEvent}

theorem Spelled.concat {event : StreamEvent} (spelled : Spelled events)
    (allowed : Allowed events event) : Spelled (events ++ [event]) := by
  intro before next after split
  rcases List.append_eq_append_iff.1 split with ⟨more, rfl, rest⟩ | ⟨more, rfl, rest⟩
  · cases more with
    | nil =>
      rw [List.append_nil]
      obtain ⟨rfl, _⟩ := List.cons.inj rest
      exact allowed
    | cons first more => simp at rest
  · cases more with
    | nil =>
      rw [List.nil_append] at rest
      obtain ⟨rfl, _⟩ := List.cons.inj rest
      rw [List.append_nil] at allowed
      exact allowed
    | cons first more =>
      obtain ⟨rfl, _⟩ := List.cons.inj rest
      exact spelled before _ more rfl

/-- A block is started once, so it has one type. -/
theorem Spelled.type_unique (spelled : Spelled events) {index : Nat} {type type' : Option String}
    (first : .blockStart index type ∈ events) (second : .blockStart index type' ∈ events) :
    type = type' := by
  induction events using List.reverseRecOn with
  | nil => cases first
  | append_singleton events last ih =>
    have allowed := spelled events last [] rfl
    have earlier : Spelled events := by
      rintro before event after rfl
      exact spelled before event (after ++ [last]) (by simp)
    rw [List.mem_append, List.mem_singleton] at first second
    rcases first with held | rfl <;> rcases second with held' | same
    · exact ih earlier held held'
    · subst same
      exact absurd held (allowed.2.2 type)
    · exact absurd held' (allowed.2.2 type')
    · cases same
      rfl

/-- In a well-formed stream nothing is misplaced. -/
theorem Spelled.placed (spelled : Spelled events) : Placed events := by
  intro before event after split misplaced
  have allowed := spelled before event after split
  have earlier : Spelled before := by
    rintro first next rest rfl
    exact spelled first next (rest ++ event :: after) (by simp [split])
  cases event with
  | blockStart index type =>
    rcases misplaced with early | late
    · exact early allowed.1
    · exact allowed.2.1 late
  | messageDelta => exact allowed.2 misplaced
  | delta index kind =>
    cases kind with
    | inputJson => exact misplaced
    | _ =>
      obtain ⟨type, started, other⟩ := misplaced
      exact other (earlier.type_unique started allowed.1)
  | _ => exact misplaced

/-! ## The state of the decoder -/

/-- What the state of the decoder says of the events before it. -/
structure Reached (before : List StreamEvent) (m : Message) : Prop where
  start : m.message.isSome = true ↔ .messageStart ∈ before
  stop : m.stopped = true ↔ .messageStop ∈ before
  blocks : ∀ index : Nat, (m.blocks[index]?).isSome = true ↔
    ∃ type, .blockStart index type ∈ before
  types : ∀ (index : Nat) type block, .blockStart index type ∈ before →
    m.blocks[index]? = some block → Json.getStr "type" block = type
  closed : ∀ index, index ∈ m.closedBlocks ↔ .blockStop index ∈ before
  opened : ∀ index, .blockStop index ∈ before → ∃ type, .blockStart index type ∈ before
  inputs : ∀ index : Nat, (m.toolInputs[index]?).isSome = true ↔
    .blockStart index (some "tool_use") ∈ before ∧ .blockStop index ∉ before

theorem Reached.new : Reached [] .new where
  start := by simp [Message.new]
  stop := by simp [Message.new]
  blocks index := by simp [Message.new]
  types := nofun
  closed index := by simp [Message.new]
  opened := nofun
  inputs index := by simp [Message.new]

theorem field_insertField (key name : String) (value : Json) (fields : List (String × Json)) :
    field name (insertField key value fields) =
      if key = name then some value else field name fields := by
  induction fields with
  | nil => simp [insertField]
  | cons entry rest ih =>
    obtain ⟨other, held⟩ := entry
    rw [insertField]
    split
    · rename_i same
      subst same
      rw [field_cons, field_cons]
      split <;> rfl
    · split
      · rw [field_cons]
      · rw [field_cons, field_cons, ih]
        split
        · rename_i different _ same
          subst same
          rw [if_neg (Ne.symm different)]
        · rfl

theorem setIndex_type {key : String} (other : key ≠ "type") {written block next : Json}
    (set : setIndex key written block = .ok next) :
    Json.getStr "type" next = Json.getStr "type" block := by
  cases block with
  | obj fields =>
    cases set
    rw [Json.getStr, Json.get, field_insertField, if_neg other]
    rfl
  | null =>
    cases set
    simp [Json.getStr, Json.get, other]
  | _ => cases set

theorem setIndex_panics {key : String} {written block : Json} {e : StreamFailure}
    (failed : setIndex key written block = .error e) : Json.getStr "type" block = none := by
  cases block with
  | obj fields => cases failed
  | _ => rfl

theorem getElem?_insert_nat {V : Type} (table : OrdMap Nat V) (index other : Nat) (value : V) :
    (table.insert index value)[other]? = if index = other then some value else table[other]? := by
  by_cases same : index = other
  · rw [if_pos same, ← same, OrdMap.get?_insert_self]
  · rw [if_neg same, OrdMap.get?_insert_of_ne _ _ same]

/-- A block may be replaced by one with the same type. -/
theorem Reached.rewrite {before : List StreamEvent} {m : Message} (reached : Reached before m)
    {index : Nat} {block next : Json} (held : m.blocks[index]? = some block)
    (same : Json.getStr "type" next = Json.getStr "type" block) (emitted : List String) :
    Reached before { m with blocks := m.blocks.insert index next, emitted := emitted } where
  start := reached.start
  stop := reached.stop
  blocks other := by
    dsimp only
    rw [getElem?_insert_nat, ← reached.blocks other]
    split
    · rename_i same
      rw [← same, held]
      rfl
    · rfl
  types other type written started found := by
    dsimp only at found
    rw [getElem?_insert_nat] at found
    split at found
    · rename_i here
      subst here
      cases found
      rw [same]
      exact reached.types _ type block started held
    · exact reached.types other type written started found
  closed := reached.closed
  opened := reached.opened
  inputs := reached.inputs

/-! ## One event -/

section Events

variable {before : List StreamEvent} {m next : Message} {value : Json}

/-- An event that neither starts nor ends anything. -/
def StreamEvent.IsQuiet : StreamEvent → Prop
  | .delta .. | .messageDelta | .ignored => True
  | _ => False

theorem Reached.quiet (reached : Reached before m) {event : StreamEvent} (quiet : event.IsQuiet) :
    Reached (before ++ [event]) m := by
  have member (other : StreamEvent) (loud : ¬ other.IsQuiet) :
      other ∈ before ++ [event] ↔ other ∈ before := by
    rw [List.mem_append, List.mem_singleton, or_iff_left]
    rintro rfl
    exact loud quiet
  constructor
  · rw [member _ id]
    exact reached.start
  · rw [member _ id]
    exact reached.stop
  · intro index
    simp only [member (.blockStart index _) id]
    exact reached.blocks index
  · intro index type block started
    rw [member _ id] at started
    exact reached.types index type block started
  · intro index
    rw [member _ id]
    exact reached.closed index
  · intro index stopped
    rw [member _ id] at stopped
    obtain ⟨type, started⟩ := reached.opened index stopped
    exact ⟨type, List.mem_append_left _ started⟩
  · intro index
    rw [member _ id, member _ id]
    exact reached.inputs index

theorem Reached.messageStart (reached : Reached before m)
    (done : m.messageStart value = .ok next) :
    Allowed before .messageStart ∧ Reached (before ++ [.messageStart]) next := by
  obtain ⟨first, done⟩ := seq_eq_ok.1 done
  obtain ⟨message, _, done⟩ := bind_eq_ok.1 done
  cases done
  rw [rejectIf_eq_ok] at first
  refine ⟨fun started => ?_, ?_⟩
  · rw [reached.start.2 started] at first
    cases first
  · constructor
    · simp
    · simpa using reached.stop
    · simpa using reached.blocks
    · simpa using reached.types
    · simpa using reached.closed
    · simpa using reached.opened
    · simpa using reached.inputs

/-- What a block that starts leaves. -/
theorem contentBlockStart_eq_ok (done : m.contentBlockStart value = .ok next) :
    ∃ index block, eventIndex value = .ok index ∧ Json.get "content_block" value = some block ∧
      m.blocks[index]? = none ∧ next.message = m.message ∧ next.stopped = m.stopped ∧
      next.closedBlocks = m.closedBlocks ∧ next.blocks = m.blocks.insert index block ∧
      next.toolInputs = if Json.getStr "type" block = some "tool_use" then
        m.toolInputs.insert index "" else m.toolInputs := by
  obtain ⟨index, indexed, done⟩ := bind_eq_ok.1 done
  obtain ⟨fresh, done⟩ := seq_eq_ok.1 done
  obtain ⟨block, held, done⟩ := bind_eq_ok.1 done
  rw [rejectIf_eq_ok, Bool.or_eq_false_iff, Std.ExtTreeMap.contains_eq_isSome_getElem?,
    Option.isSome_eq_false_iff, Option.isNone_iff_eq_none] at fresh
  rw [orError_eq_ok] at held
  refine ⟨index, block, indexed, held, fresh.2, ?_⟩
  cases done
  dsimp only
  split
  · rename_i tool
    rw [if_pos tool]
    exact ⟨rfl, rfl, rfl, rfl, rfl⟩
  · rename_i text
    rw [text, if_neg (by decide), Message.emit]
    split <;> exact ⟨rfl, rfl, rfl, rfl, rfl⟩
  · rename_i other _
    rw [if_neg other]
    exact ⟨rfl, rfl, rfl, rfl, rfl⟩

theorem Reached.contentBlockStart (reached : Reached before m)
    (done : m.contentBlockStart value = .ok next) :
    ∃ index block, eventIndex value = .ok index ∧ Json.get "content_block" value = some block ∧
      (∀ type, .blockStart index type ∉ before) ∧
      Reached (before ++ [.blockStart index (Json.getStr "type" block)]) next := by
  obtain ⟨index, block, indexed, held, fresh, message, stopped, closed, blocks, inputs⟩ :=
    contentBlockStart_eq_ok done
  have new : ∀ type, StreamEvent.blockStart index type ∉ before := fun type started => by
    have some := (reached.blocks index).2 ⟨type, started⟩
    rw [fresh] at some
    cases some
  have open' : StreamEvent.blockStop index ∉ before := fun stopped => by
    obtain ⟨type, started⟩ := reached.opened index stopped
    exact new type started
  refine ⟨index, block, indexed, held, new, ?_⟩
  constructor
  · rw [message]
    simpa using reached.start
  · rw [stopped]
    simpa using reached.stop
  · intro other
    rw [blocks, getElem?_insert_nat]
    split
    · rename_i same
      subst same
      simp
    · rename_i different
      rw [reached.blocks other]
      simp [Ne.symm different]
  · intro other type written started found
    rw [blocks, getElem?_insert_nat] at found
    rw [List.mem_append, List.mem_singleton] at started
    split at found
    · rename_i same
      subst same
      cases found
      rcases started with earlier | here
      · exact absurd earlier (new type)
      · cases here
        rfl
    · rename_i different
      rcases started with earlier | here
      · exact reached.types other type written earlier found
      · cases here
        exact absurd rfl different
  · intro other
    rw [closed]
    simpa using reached.closed other
  · intro other stopped
    rw [List.mem_append, List.mem_singleton] at stopped
    obtain ⟨type, started⟩ := reached.opened other (stopped.resolve_right nofun)
    exact ⟨type, List.mem_append_left _ started⟩
  · intro other
    have members : StreamEvent.blockStart other (some "tool_use") ∈
          before ++ [.blockStart index (Json.getStr "type" block)] ↔
        .blockStart other (some "tool_use") ∈ before ∨
          other = index ∧ Json.getStr "type" block = some "tool_use" := by
      simp [eq_comm]
    have stops : StreamEvent.blockStop other ∈
        before ++ [.blockStart index (Json.getStr "type" block)] ↔ .blockStop other ∈ before := by
      simp
    rw [members, stops, inputs]
    by_cases same : index = other
    · subst same
      split
      · rename_i tool
        simp [tool, open']
      · rename_i other
        rw [reached.inputs index]
        simp [other]
    · split
      · rw [getElem?_insert_nat, if_neg same, reached.inputs other]
        simp [Ne.symm same]
      · rw [reached.inputs other]
        simp [Ne.symm same]

/-- The state after a delta, and where it belongs. -/
structure DeltaDone (before : List StreamEvent) (m next : Message) (index : Nat)
    (kind : DeltaKind) : Prop where
  reached : Reached before next
  started : ∃ type, .blockStart index type ∈ before ∧ (kind = .inputJson → type = some "tool_use")

variable {delta : List (String × Json)} {index : Nat}

theorem Reached.textDelta (reached : Reached before m) (done : m.textDelta index delta = .ok next) :
    DeltaDone before m next index .text := by
  obtain ⟨text, _, done⟩ := bind_eq_ok.1 done
  obtain ⟨block, held, done⟩ := bind_eq_ok.1 done
  obtain ⟨written, set, done⟩ := bind_eq_ok.1 done
  cases done
  rw [orError_eq_ok] at held
  have same := setIndex_type (by decide) set
  refine ⟨?_, ?_⟩
  · unfold Message.emit
    split
    · exact reached.rewrite held same m.emitted
    · exact reached.rewrite held same (m.emitted ++ [text])
  · obtain ⟨type, started⟩ := (reached.blocks index).1 (by rw [held]; rfl)
    exact ⟨type, started, nofun⟩

theorem Reached.blockDelta (reached : Reached before m) {name : String} (other : name ≠ "type")
    {kind : DeltaKind} (text : kind ≠ .inputJson) (done : m.blockDelta name index delta = .ok next) :
    DeltaDone before m next index kind := by
  obtain ⟨written, appended, done⟩ := bind_eq_ok.1 done
  obtain ⟨fragment, _, appended⟩ := bind_eq_ok.1 appended
  obtain ⟨fields, object, appended⟩ := bind_eq_ok.1 appended
  cases done
  cases appended
  rw [orError_eq_ok] at object
  obtain ⟨block, held, object⟩ := Option.bind_eq_some_iff.1 object
  have same : Json.getStr "type" (.obj (insertField name
      (.str (((field name fields).bind Json.asStr).getD "" ++ fragment)) fields)) =
      Json.getStr "type" block := by
    cases block with
    | obj held =>
      cases object
      rw [Json.getStr, Json.get, field_insertField, if_neg other]
      rfl
    | _ => cases object
  refine ⟨reached.rewrite held same m.emitted, ?_⟩
  obtain ⟨type, started⟩ := (reached.blocks index).1 (by rw [held]; rfl)
  exact ⟨type, started, fun tool => absurd tool text⟩

theorem Reached.inputJsonDelta (reached : Reached before m) {maximum index : Nat}
    (done : m.inputJsonDelta maximum index delta = .ok next) :
    DeltaDone before m next index .inputJson := by
  obtain ⟨fragment, _, done⟩ := bind_eq_ok.1 done
  obtain ⟨input, held, done⟩ := bind_eq_ok.1 done
  replace done := rest_ok done
  cases done
  rw [orError_eq_ok] at held
  have tool := (reached.inputs index).1 (by rw [held]; rfl)
  refine ⟨⟨reached.start, reached.stop, reached.blocks, reached.types, reached.closed,
    reached.opened, fun other => ?_⟩, _, tool.1, fun _ => rfl⟩
  dsimp only
  rw [getElem?_insert_nat, ← reached.inputs other]
  split
  · rename_i same
    rw [← same, held]
    rfl
  · rfl

theorem Reached.contentBlockDelta (reached : Reached before m) {maximum : Nat}
    (done : m.contentBlockDelta maximum value = .ok next) :
    ∃ index kind, eventIndex value = .ok index ∧ deltaKind value = some kind ∧
      .blockStop index ∉ before ∧ DeltaDone before m next index kind := by
  obtain ⟨index, indexed, done⟩ := bind_eq_ok.1 done
  obtain ⟨opened, done⟩ := seq_eq_ok.1 done
  obtain ⟨delta, held, done⟩ := bind_eq_ok.1 done
  rw [rejectIf_eq_ok] at opened
  rw [orError_eq_ok] at held
  have open' : StreamEvent.blockStop index ∉ before := fun stopped => by
    rw [Std.ExtTreeSet.mem_iff_contains.1 ((reached.closed index).2 stopped)] at opened
    cases opened
  refine ⟨index, ?_⟩
  unfold deltaKind
  rw [held, Option.bind_some]
  split at done
  · rename_i typed
    rw [typed]
    exact ⟨.text, indexed, rfl, open', reached.textDelta done⟩
  · rename_i typed
    rw [typed]
    exact ⟨.inputJson, indexed, rfl, open', reached.inputJsonDelta done⟩
  · rename_i typed
    rw [typed]
    exact ⟨.thinking, indexed, rfl, open', reached.blockDelta (by decide) nofun done⟩
  · rename_i typed
    rw [typed]
    exact ⟨.signature, indexed, rfl, open', reached.blockDelta (by decide) nofun done⟩
  · cases done
  · cases done

/-- A delta that is in its place belongs to its block. -/
theorem DeltaDone.allowed {kind : DeltaKind} (done : DeltaDone before m next index kind)
    (open' : .blockStop index ∉ before) (placed : ¬ Misplaced before (.delta index kind)) :
    Allowed before (.delta index kind) := by
  obtain ⟨type, started, tool⟩ := done.started
  have same : type = some kind.blockType := by
    cases kind with
    | inputJson => exact tool rfl
    | _ =>
      by_contra other
      exact placed ⟨type, started, other⟩
  exact ⟨same ▸ started, open'⟩

/-- A closed block. -/
theorem Reached.close (reached : Reached before m) {type : Option String}
    (started : .blockStart index type ∈ before) (blocks : OrdMap Nat Json)
    (inputs : OrdMap Nat String) (emitted : List String)
    (rewritten : Reached before { m with blocks := blocks, emitted := emitted })
    (settled : ∀ other : Nat, (inputs[other]?).isSome = true ↔
      (m.toolInputs[other]?).isSome = true ∧ other ≠ index) :
    Reached (before ++ [.blockStop index])
      { m with blocks := blocks, emitted := emitted, toolInputs := inputs
               closedBlocks := m.closedBlocks.insert index } where
  start := by simpa using reached.start
  stop := by simpa using reached.stop
  blocks := by simpa using rewritten.blocks
  types := by simpa using rewritten.types
  closed other := by
    show other ∈ m.closedBlocks.insert index ↔ _
    rw [Std.ExtTreeSet.mem_insert, Std.compare_eq_iff_eq, reached.closed other, List.mem_append,
      List.mem_singleton, or_comm, StreamEvent.blockStop.injEq, eq_comm]
  opened other stopped := by
    rw [List.mem_append, List.mem_singleton] at stopped
    rcases stopped with earlier | here
    · obtain ⟨type, started⟩ := reached.opened other earlier
      exact ⟨type, List.mem_append_left _ started⟩
    · cases here
      exact ⟨type, List.mem_append_left _ started⟩
  inputs other := by
    show (inputs[other]?).isSome = true ↔ _
    rw [settled, reached.inputs other]
    simp only [List.mem_append, List.mem_singleton, reduceCtorEq, or_false, not_or,
      StreamEvent.blockStop.injEq]
    exact and_assoc

theorem Reached.contentBlockStop (reached : Reached before m) {parse : List UInt8 → Option Json}
    (done : m.contentBlockStop parse value = .ok next) :
    ∃ index, eventIndex value = .ok index ∧ Allowed before (.blockStop index) ∧
      Reached (before ++ [.blockStop index]) next := by
  obtain ⟨index, indexed, done⟩ := bind_eq_ok.1 done
  obtain ⟨unique, done⟩ := seq_eq_ok.1 done
  rw [rejectIf_eq_ok, Bool.or_eq_false_iff, Bool.not_eq_false',
    Std.ExtTreeMap.contains_eq_isSome_getElem?] at unique
  obtain ⟨type, started⟩ := (reached.blocks index).1 unique.1
  have open' : StreamEvent.blockStop index ∉ before := fun stopped => by
    rw [Std.ExtTreeSet.mem_iff_contains.1 ((reached.closed index).2 stopped)] at unique
    cases unique.2
  refine ⟨index, indexed, ⟨⟨type, started⟩, open'⟩, ?_⟩
  dsimp only at done
  split at done
  · rename_i none
    cases done
    refine reached.close started m.blocks m.toolInputs m.emitted reached fun other => ?_
    refine ⟨fun some => ⟨some, ?_⟩, And.left⟩
    rintro rfl
    rw [none] at some
    cases some
  · unfold Message.settleInput at done
    obtain ⟨input, _, done⟩ := bind_eq_ok.1 done
    obtain ⟨block, held, done⟩ := bind_eq_ok.1 done
    obtain ⟨written, set, done⟩ := bind_eq_ok.1 done
    cases done
    rw [orError_eq_ok] at held
    refine reached.close started (m.blocks.insert index written) (m.toolInputs.erase index) m.emitted
      (reached.rewrite held (setIndex_type (by decide) set) m.emitted) fun other => ?_
    by_cases same : index = other
    · rw [← same, Std.ExtTreeMap.getElem?_erase_self]
      simp
    · rw [Std.ExtTreeMap.getElem?_erase,
        if_neg fun equal => same (Std.LawfulEqCmp.eq_of_compare equal)]
      exact (and_iff_left (Ne.symm same)).symm

theorem Reached.messageDelta (reached : Reached before m)
    (done : m.messageDelta value = .ok next) :
    .messageStart ∈ before ∧ Reached (before ++ [.messageDelta]) next := by
  obtain ⟨message, held, done⟩ := bind_eq_ok.1 done
  rw [orError_eq_ok] at held
  have started := reached.start.1 (by rw [held]; rfl)
  refine ⟨started, Reached.quiet ?_ trivial⟩
  have kept (message : List (String × Json)) : Reached before { m with message := some message } :=
    { reached with start := ⟨fun _ => started, fun _ => rfl⟩ }
  dsimp only at done
  cases usage : (Json.get "usage" value).bind Json.asObject with
  | none =>
    rw [usage] at done
    cases done
    exact kept _
  | some usage' =>
    rw [usage] at done
    obtain ⟨target, _, done⟩ := bind_eq_ok.1 done
    cases done
    exact kept _

theorem Reached.messageStop (reached : Reached before m) (done : m.messageStop = .ok next) :
    Allowed before .messageStop ∧ Reached (before ++ [.messageStop]) next := by
  obtain ⟨boundary, done⟩ := seq_eq_ok.1 done
  cases done
  simp only [rejectIf_eq_ok, Bool.or_eq_false_iff, Option.isNone_eq_false_iff,
    bne_eq_false_iff_eq] at boundary
  obtain ⟨⟨⟨running, message⟩, _⟩, sizes⟩ := boundary
  refine ⟨⟨reached.start.1 message, fun ended => ?_, fun index type started => ?_⟩, ?_⟩
  · rw [reached.stop.2 ended] at running
    cases running
  · have nodup : m.closedBlocks.toList.Nodup :=
      m.closedBlocks.distinct_toList.imp fun apart same => apart (Std.compare_eq_iff_eq.2 same)
    refine (reached.closed index).1 (Std.ExtTreeSet.mem_toList.1 (mem_of_size nodup
      (fun index closed => ?_) (by rw [Std.ExtTreeSet.length_toList, sizes])
      ((reached.blocks index).2 ⟨type, started⟩)))
    rw [Std.ExtTreeSet.mem_toList, reached.closed] at closed
    exact (reached.blocks index).2 (reached.opened index closed)
  · constructor
    · simpa using reached.start
    · simp
    · simpa using reached.blocks
    · simpa using reached.types
    · simpa using reached.closed
    · simpa using reached.opened
    · simpa using reached.inputs

end Events

end YHarness.Model.Anthropic

/-
# YHarness.Protocol.OperationStream -- what a reader of an Operation's events misses

`OperationEventBuffer` of `src/protocol/mod.rs` keeps the newest events of a running model
within two limits, and a client reads it page by page behind the last event it has.  The
invariant `Stream.Sound` relates the buffer, everything emitted so far and what the client
received; from it, what a page does not have and the client does not either is below the
mark that the page reports (`stream_gaps_reported`).
-/
import YHarness.Lib.Json
import YHarness.Lib.Check
import YHarness.Kernel.Sizes
import YHarness.Context.Conversation

namespace YHarness.Protocol

open YHarness.Lib YHarness.Kernel
open YHarness.Context (usizeMax)

set_option autoImplicit false

def maxOperationStreamEvents : Nat := 4096
def maxOperationStreamBytes : Nat := 1048576
def defaultOperationEventPage : Nat := 16
def maxOperationEventPage : Nat := 32

/-- `ModelStreamEvent`, with the two trace events as they are encoded. -/
inductive ModelStreamEvent where
  | textDelta (modelStep : UInt32) (delta : String)
  | stepInvalidated (modelStep : UInt32)
  | toolTraceRequest (encoded : Json)
  | toolTraceResponse (encoded : Json)

/-- The bytes that the buffer charges for an event. -/
def ModelStreamEvent.charge : ModelStreamEvent → Nat
  | textDelta _ delta => delta.utf8ByteSize
  | stepInvalidated _ => 0
  | toolTraceRequest encoded => encoded.encodedLen
  | toolTraceResponse encoded => encoded.encodedLen

/-- An event that a program can hold: its text or encoding has at most `isize::MAX` bytes. -/
abbrev EmittedEvent : Type := { event : ModelStreamEvent // event.charge < 2 ^ 63 }

structure OperationStreamEvent where
  sequence : Nat
  event : EmittedEvent

def OperationStreamEvent.charge (event : OperationStreamEvent) : Nat :=
  event.event.1.charge

structure OperationEventBuffer where
  events : List OperationStreamEvent
  retainedBytes : Nat
  nextSequence : Nat
  droppedThroughSequence : Option Nat

namespace OperationEventBuffer

def empty : OperationEventBuffer :=
  ⟨[], 0, 0, none⟩

/-- The loop that evicts the oldest events. -/
def evict (nextSequence : Nat) : List OperationStreamEvent → Nat → Option Nat → OperationEventBuffer
  | [], retainedBytes, dropped => ⟨[], retainedBytes, nextSequence, dropped⟩
  | oldest :: events, retainedBytes, dropped =>
    if maxOperationStreamEvents < (oldest :: events).length ∨ maxOperationStreamBytes < retainedBytes
    then evict nextSequence events (retainedBytes - oldest.charge) (some oldest.sequence)
    else ⟨oldest :: events, retainedBytes, nextSequence, dropped⟩

/-- `emit`, and the buffer it leaves. -/
def emit (buffer : OperationEventBuffer) (event : EmittedEvent) :
    Except String Unit × OperationEventBuffer :=
  let sequence := buffer.nextSequence + 1
  if 2 ^ 64 ≤ sequence then (.error "operation event sequence overflow", buffer)
  else
    let bytes := buffer.retainedBytes + event.1.charge
    if usizeMax < bytes then
      (.error "operation event byte count overflow", { buffer with nextSequence := sequence })
    else
      (.ok (), evict sequence (buffer.events ++ [⟨sequence, event⟩]) bytes
        buffer.droppedThroughSequence)

/-- `page`: the events, whether there are more, and the mark of what was evicted. -/
def page (buffer : OperationEventBuffer) (afterSequence limit : Nat) :
    List OperationStreamEvent × Bool × Option Nat :=
  let retained := (buffer.events.filter fun event => decide (afterSequence < event.sequence)).take
    (limit + 1)
  let hasMore := decide (limit < retained.length)
  (if hasMore then retained.dropLast else retained, hasMore, buffer.droppedThroughSequence)

end OperationEventBuffer

structure OperationEvents where
  events : List OperationStreamEvent
  nextAfterSequence : Option Nat
  hasMore : Bool
  droppedThroughSequence : Option Nat

/-- The command `GetOperationEvents`, for the buffer of the Operation. -/
def getOperationEvents (buffer : OperationEventBuffer) (afterSequence limit : Option Nat) :
    Except HarnessError OperationEvents := do
  let limit := limit.getD defaultOperationEventPage
  rejectIf (decide (limit < 1) || decide (maxOperationEventPage < limit))
    (.protocol s!"operation event limit must be 1-{maxOperationEventPage}")
  let (events, hasMore, dropped) := buffer.page (afterSequence.getD 0) limit
  .ok ⟨events, events.getLast?.map (·.sequence), hasMore, dropped⟩

/-! ## A stream and its reader -/

/-- A buffer, everything that was emitted into it, and what one client received. -/
structure Stream where
  buffer : OperationEventBuffer
  emitted : List OperationStreamEvent
  received : List OperationStreamEvent

namespace Stream

/-- The sequence after which the client continues. -/
def cursor (s : Stream) : Option Nat :=
  s.received.getLast?.map (·.sequence)

def emit (s : Stream) (event : EmittedEvent) : Stream :=
  match s.buffer.emit event with
  | (.ok (), buffer) =>
    { s with buffer, emitted := s.emitted ++ [⟨s.buffer.nextSequence + 1, event⟩] }
  | (.error _, buffer) => { s with buffer }

def read (s : Stream) (limit : Option Nat) : Stream :=
  match getOperationEvents s.buffer s.cursor limit with
  | .ok page => { s with received := s.received ++ page.events }
  | .error _ => s

/-- The streams that emissions and reads lead to, in any order. -/
inductive Reachable : Stream → Prop
  | start : Reachable ⟨.empty, [], []⟩
  | emit {s : Stream} (before : Reachable s) (event : EmittedEvent) : Reachable (s.emit event)
  | read {s : Stream} (before : Reachable s) (limit : Option Nat) : Reachable (s.read limit)

/-- What the buffer evicted and keeps of what was emitted, and what the client has of it. -/
structure Splits (s : Stream) (evicted : List OperationStreamEvent) : Prop where
  emitted : s.emitted = evicted ++ s.buffer.events
  marked : s.buffer.droppedThroughSequence = evicted.getLast?.map (·.sequence)
  accounted : ∀ event ∈ s.emitted, event.sequence ≤ s.cursor.getD 0 →
    event ∈ s.received ∨ event ∈ evicted

structure Sound (s : Stream) : Prop where
  numbered : s.emitted.map (·.sequence) = List.range' 1 s.emitted.length
  counted : s.buffer.nextSequence = s.emitted.length
  splits : ∃ evicted, s.Splits evicted
  charged : s.buffer.retainedBytes = (s.buffer.events.map (·.charge)).sum
  few : s.buffer.events.length ≤ maxOperationStreamEvents
  light : s.buffer.retainedBytes ≤ maxOperationStreamBytes
  ascending : s.received.Pairwise fun a b => a.sequence < b.sequence
  genuine : ∀ event ∈ s.received, event ∈ s.emitted

/-! ## What the buffer does -/

theorem evict_spec (nextSequence : Nat) (before : List OperationStreamEvent)
    (events : List OperationStreamEvent) {retainedBytes : Nat}
    (charged : retainedBytes = (events.map (·.charge)).sum) :
    ∃ gone kept, events = gone ++ kept ∧
      OperationEventBuffer.evict nextSequence events retainedBytes
          (before.getLast?.map (·.sequence)) =
        ⟨kept, (kept.map (·.charge)).sum, nextSequence,
          (before ++ gone).getLast?.map (·.sequence)⟩ ∧
      kept.length ≤ maxOperationStreamEvents ∧
      (kept.map (·.charge)).sum ≤ maxOperationStreamBytes := by
  induction events generalizing before retainedBytes with
  | nil =>
    refine ⟨[], [], rfl, ?_, Nat.zero_le _, Nat.zero_le _⟩
    rw [charged, OperationEventBuffer.evict, List.append_nil]
  | cons oldest events ih =>
    unfold OperationEventBuffer.evict
    by_cases full : maxOperationStreamEvents < (oldest :: events).length ∨
        maxOperationStreamBytes < retainedBytes
    · rw [if_pos full]
      have less : retainedBytes - oldest.charge = (events.map (·.charge)).sum := by
        rw [charged, List.map_cons, List.sum_cons, Nat.add_sub_cancel_left]
      obtain ⟨gone, kept, split, evicted, few, light⟩ := ih (before ++ [oldest]) less
      refine ⟨oldest :: gone, kept, by rw [split]; rfl, ?_, few, light⟩
      rw [List.getLast?_concat, List.append_assoc] at evicted
      exact evicted
    · rw [if_neg full]
      rw [not_or, Nat.not_lt, Nat.not_lt] at full
      refine ⟨[], oldest :: events, rfl, ?_, full.1, charged ▸ full.2⟩
      rw [charged, List.append_nil]

/-- A page is the first of the retained events behind the client's. -/
theorem page_events (buffer : OperationEventBuffer) (afterSequence limit : Nat) :
    (buffer.page afterSequence limit).1 =
      (buffer.events.filter fun event => decide (afterSequence < event.sequence)).take limit := by
  unfold OperationEventBuffer.page
  dsimp only
  split
  · rename_i more
    rw [decide_eq_true_eq, List.length_take] at more
    rw [List.dropLast_eq_take, List.take_take, List.length_take]
    congr 1
    omega
  · rename_i all
    rw [decide_eq_true_eq, List.length_take] at all
    rw [List.take_of_length_le (by omega), List.take_of_length_le (by omega)]

theorem getOperationEvents_spec {buffer : OperationEventBuffer} {afterSequence limit : Option Nat}
    {page : OperationEvents} (answer : getOperationEvents buffer afterSequence limit = .ok page) :
    page.events = (buffer.events.filter fun event =>
        decide (afterSequence.getD 0 < event.sequence)).take (limit.getD defaultOperationEventPage) ∧
      page.droppedThroughSequence = buffer.droppedThroughSequence ∧
      page.nextAfterSequence = page.events.getLast?.map (·.sequence) := by
  replace answer := rest_ok answer
  rw [← page_events, ok_eq_ok.1 answer]
  exact ⟨rfl, rfl, rfl⟩

/-- In ascending order the last event is the greatest. -/
theorem le_last {events : List OperationStreamEvent}
    (ascending : events.Pairwise fun a b => a.sequence < b.sequence) {last event : OperationStreamEvent}
    (is_last : events.getLast? = some last) (member : event ∈ events) :
    event.sequence ≤ last.sequence := by
  obtain ⟨front, rfl⟩ := List.getLast?_eq_some_iff.1 is_last
  rcases List.mem_append.1 member with before | same
  · exact Nat.le_of_lt ((List.pairwise_append.1 ascending).2.2 event before last (by simp))
  · rw [List.mem_singleton.1 same]

variable {s : Stream}

theorem Sound.ordered (sound : s.Sound) : s.emitted.Pairwise fun a b => a.sequence < b.sequence := by
  rw [← List.pairwise_map, sound.numbered]
  exact List.pairwise_lt_range'

theorem Sound.le_cursor (sound : s.Sound) {event : OperationStreamEvent}
    (member : event ∈ s.received) : event.sequence ≤ s.cursor.getD 0 := by
  cases last : s.received.getLast? with
  | none =>
    rw [List.getLast?_eq_none_iff] at last
    rw [last] at member
    cases member
  | some final =>
    rw [cursor, last]
    exact le_last sound.ascending last member

theorem Sound.cursor_le (sound : s.Sound) : s.cursor.getD 0 ≤ s.emitted.length := by
  cases last : s.received.getLast? with
  | none => rw [cursor, last]; exact Nat.zero_le _
  | some final =>
    rw [cursor, last]
    have member := List.mem_map_of_mem (f := (·.sequence))
      (sound.genuine final (List.mem_of_getLast? last))
    rw [sound.numbered, List.mem_range'_1] at member
    show final.sequence ≤ s.emitted.length
    omega

theorem Sound.emit (sound : s.Sound) (event : EmittedEvent) : (s.emit event).Sound := by
  obtain ⟨evicted, split, marked, accounted⟩ := sound.splits
  unfold Stream.emit OperationEventBuffer.emit
  dsimp only
  by_cases overflow : 2 ^ 64 ≤ s.buffer.nextSequence + 1
  · rw [if_pos overflow]
    exact sound
  · have room : ¬ usizeMax < s.buffer.retainedBytes + event.1.charge := by
      have := sound.light
      have := event.2
      simp only [usizeMax, maxOperationStreamBytes] at *
      omega
    rw [if_neg overflow, if_neg room, marked]
    obtain ⟨gone, kept, parts, evicts, few, light⟩ := @evict_spec (s.buffer.nextSequence + 1) evicted
      (s.buffer.events ++ [⟨s.buffer.nextSequence + 1, event⟩])
      (s.buffer.retainedBytes + event.1.charge) (by
        rw [List.map_append, List.sum_append, sound.charged]
        simp [OperationStreamEvent.charge])
    rw [evicts]
    refine ⟨?_, ?_, ⟨evicted ++ gone, ?_, rfl, ?_⟩, rfl, few, light, sound.ascending, ?_⟩
    · rw [List.map_append, sound.numbered, List.length_append, List.length_singleton,
        List.range'_concat, sound.counted, Nat.one_mul, Nat.add_comm 1]
      rfl
    · rw [List.length_append, List.length_singleton, sound.counted]
    · rw [List.append_assoc, ← parts, ← List.append_assoc, ← split]
    · intro other member within
      rcases List.mem_append.1 member with old | new
      · exact (accounted other old within).imp_right (List.mem_append_left _)
      · -- the client is not ahead of the stream
        have ahead := sound.cursor_le
        rw [List.mem_singleton.1 new, sound.counted] at within
        have within : s.emitted.length + 1 ≤ s.cursor.getD 0 := within
        omega
    · exact fun other member => List.mem_append_left _ (sound.genuine other member)

theorem Sound.read (sound : s.Sound) (limit : Option Nat) : (s.read limit).Sound := by
  unfold Stream.read
  cases answer : getOperationEvents s.buffer s.cursor limit with
  | error error => exact sound
  | ok page =>
    dsimp only
    rw [(getOperationEvents_spec answer).1]
    obtain ⟨evicted, split, marked, accounted⟩ := sound.splits
    have ordered := sound.ordered
    rw [split] at ordered
    have behind := (List.pairwise_append.1 ordered).2.1.filter
      fun event => decide (s.cursor.getD 0 < event.sequence)
    generalize count : limit.getD defaultOperationEventPage = n
    have members : ∀ event ∈ (s.buffer.events.filter fun event =>
        decide (s.cursor.getD 0 < event.sequence)).take n,
        event ∈ s.buffer.events ∧ s.cursor.getD 0 < event.sequence := by
      intro event member
      have member := List.mem_filter.1 (List.mem_of_mem_take member)
      exact ⟨member.1, decide_eq_true_iff.1 member.2⟩
    refine ⟨sound.numbered, sound.counted, ⟨evicted, split, marked, ?_⟩, sound.charged, sound.few,
      sound.light, ?_, ?_⟩
    · intro event member within
      by_cases early : event.sequence ≤ s.cursor.getD 0
      · exact (accounted event member early).imp_left (List.mem_append_left _)
      · rw [split, List.mem_append] at member
        rcases member with gone | kept
        · exact .inr gone
        · refine .inl (List.mem_append_right _ ?_)
          have among : event ∈ s.buffer.events.filter fun event =>
              decide (s.cursor.getD 0 < event.sequence) :=
            List.mem_filter.2 ⟨kept, decide_eq_true (Nat.lt_of_not_le early)⟩
          rw [← List.take_append_drop n (s.buffer.events.filter _)] at among behind
          refine (List.mem_append.1 among).resolve_right fun later => ?_
          unfold cursor at within
          dsimp only at within
          rw [List.getLast?_append] at within
          cases final : ((s.buffer.events.filter fun event =>
              decide (s.cursor.getD 0 < event.sequence)).take n).getLast? with
          | none =>
            rw [cursor] at final early
            rw [final] at within
            exact early within
          | some last =>
            have less := (List.pairwise_append.1 behind).2.2 last (List.mem_of_getLast? final)
              event later
            rw [cursor] at final
            rw [final] at within
            exact absurd within (Nat.not_le.2 less)
    · refine List.pairwise_append.2 ⟨sound.ascending, behind.sublist (List.take_sublist ..), ?_⟩
      intro a received b member
      exact (sound.le_cursor received).trans_lt (members b member).2
    · intro event member
      rcases List.mem_append.1 member with old | new
      · exact sound.genuine event old
      · rw [split]
        exact List.mem_append_right _ (members event new).1

theorem Reachable.sound (reached : s.Reachable) : s.Sound := by
  induction reached with
  | start =>
    refine ⟨rfl, rfl, ⟨[], rfl, rfl, by simp⟩, rfl, Nat.zero_le _, Nat.zero_le _, .nil, by simp⟩
  | emit _ event ih => exact ih.emit event
  | read _ limit ih => exact ih.read limit

end Stream

/-- **Gaps are reported.**  After any emissions and reads, the buffer holds the newest events
within its limits, the client has what it has in order, and what it misses before an event of a
page is at most the mark of that page. -/
theorem stream_gaps_reported {s : Stream} (reached : s.Reachable) :
    (s.emitted.map (·.sequence) = List.range' 1 s.emitted.length ∧
      s.buffer.events = s.emitted.drop (s.emitted.length - s.buffer.events.length)) ∧
    (s.buffer.events.length ≤ maxOperationStreamEvents ∧
      s.buffer.retainedBytes = (s.buffer.events.map (·.charge)).sum ∧
      s.buffer.retainedBytes ≤ maxOperationStreamBytes) ∧
    ((s.received.Pairwise fun a b => a.sequence < b.sequence) ∧
      ∀ event ∈ s.received, event ∈ s.emitted) ∧
    ∀ limit page, getOperationEvents s.buffer s.cursor limit = .ok page →
      ∀ event ∈ s.emitted, ∀ later ∈ page.events, event.sequence < later.sequence →
        event ∈ s.received ++ page.events ∨
          ∃ dropped, page.droppedThroughSequence = some dropped ∧ event.sequence ≤ dropped := by
  have sound := reached.sound
  obtain ⟨evicted, split, marked, _⟩ := sound.splits
  refine ⟨⟨sound.numbered, ?_⟩, ⟨sound.few, sound.charged, sound.light⟩,
    ⟨sound.ascending, sound.genuine⟩, ?_⟩
  · rw [split, List.length_append, Nat.add_sub_cancel_right, List.drop_left]
  · intro limit page answer event member later among less
    have read := (reached.read limit).sound
    have same : s.read limit = { s with received := s.received ++ page.events } := by
      rw [Stream.read, answer]
    rw [same] at read
    obtain ⟨evicted', split', marked', accounted'⟩ := read.splits
    have upTo := read.le_cursor (List.mem_append_right _ among)
    rcases accounted' event member (less.le.trans upTo) with has | gone
    · exact .inl has
    · right
      have ordered := read.ordered
      rw [split'] at ordered
      obtain ⟨last, is_last⟩ : ∃ last, evicted'.getLast? = some last := by
        cases final : evicted'.getLast? with
        | none =>
          rw [List.getLast?_eq_none_iff] at final
          rw [final] at gone
          cases gone
        | some last => exact ⟨last, rfl⟩
      refine ⟨last.sequence, ?_, Stream.le_last (List.pairwise_append.1 ordered).1 is_last gone⟩
      rw [(Stream.getOperationEvents_spec answer).2.1]
      exact marked'.trans (by rw [is_last]; rfl)

/-- Two deltas of this length do not fit in the buffer. -/
def longDelta : EmittedEvent :=
  ⟨.textDelta 1 (repeated 600000 'a'), by
    rw [ModelStreamEvent.charge, repeated_size (b := 97) rfl]
    decide⟩

theorem longDelta_charge : longDelta.1.charge = 600000 :=
  repeated_size (b := 97) rfl 600000

def shortDelta : EmittedEvent :=
  ⟨.textDelta 1 "hello", by decide⟩

/-- A client reads the first event, and two others follow. -/
def sampleStream (large : EmittedEvent) : Stream :=
  ((((⟨.empty, [], []⟩ : Stream).emit shortDelta).read (some 1)).emit large).emit large

theorem sampleStream_eq {large : EmittedEvent} (size : large.1.charge = 600000) :
    sampleStream large = ⟨⟨[⟨3, large⟩], 600000, 3, some 2⟩,
      [⟨1, shortDelta⟩, ⟨2, large⟩, ⟨3, large⟩], [⟨1, shortDelta⟩]⟩ := by
  have short : shortDelta.1.charge = 5 := by decide
  have first : (Stream.emit ⟨.empty, [], []⟩ shortDelta).read (some 1) =
      ⟨⟨[⟨1, shortDelta⟩], 5, 1, none⟩, [⟨1, shortDelta⟩], [⟨1, shortDelta⟩]⟩ := rfl
  have second : Stream.emit ⟨⟨[⟨1, shortDelta⟩], 5, 1, none⟩, [⟨1, shortDelta⟩], [⟨1, shortDelta⟩]⟩
      large = ⟨⟨[⟨1, shortDelta⟩, ⟨2, large⟩], 600005, 2, none⟩,
        [⟨1, shortDelta⟩, ⟨2, large⟩], [⟨1, shortDelta⟩]⟩ := by
    simp [Stream.emit, OperationEventBuffer.emit, OperationEventBuffer.evict, size, usizeMax,
      maxOperationStreamEvents, maxOperationStreamBytes]
  rw [sampleStream, first, second]
  simp [Stream.emit, OperationEventBuffer.emit, OperationEventBuffer.evict, size, usizeMax, short,
    maxOperationStreamEvents, maxOperationStreamBytes, OperationStreamEvent.charge]

/-- The second event is evicted before the client reads it, and the page says so. -/
theorem stream_gaps_reported_sample :
    ∃ page, getOperationEvents (sampleStream longDelta).buffer (sampleStream longDelta).cursor
        none = .ok page ∧
      page.events.map (·.sequence) = [3] ∧ page.droppedThroughSequence = some 2 ∧
      ∀ event ∈ (sampleStream longDelta).emitted, ∀ later ∈ page.events,
        event.sequence < later.sequence →
          event ∈ (sampleStream longDelta).received ++ page.events ∨
            ∃ dropped, page.droppedThroughSequence = some dropped ∧ event.sequence ≤ dropped := by
  have reached : (sampleStream longDelta).Reachable := .emit (.emit (.read (.emit .start _) _) _) _
  have reported := (stream_gaps_reported reached).2.2.2 none
  rw [sampleStream_eq longDelta_charge] at reported ⊢
  exact ⟨_, rfl, rfl, rfl, reported _ rfl⟩

end YHarness.Protocol

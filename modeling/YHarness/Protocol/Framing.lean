/-
# YHarness.Protocol.Framing -- frames do not depend on how their bytes arrive

`read_bounded_frame` of `src/protocol/mod.rs` reads one line from a reader that hands out the
stream in buffers, and keeps of a line only what is below the limit.  What the calls return
one after the other is determined by the bytes alone (`framing_independent`): one result for
each line, one for what is left without a newline, and then the end of the stream.
-/
import YHarness.Context.Conversation

namespace YHarness.Protocol

open YHarness.Context (usizeMax)

set_option autoImplicit false

def newline : UInt8 := 10
def carriageReturn : UInt8 := 13

/-- What one `fill_buf` of a stream that goes on returns. -/
abbrev Buffer : Type := { bytes : List UInt8 // bytes ≠ [] }

/-- The bytes that a reader still delivers. -/
def streamOf (reader : List Buffer) : List UInt8 :=
  reader.flatMap (·.1)

inductive FrameRead where
  | eof
  | line (bytes : List UInt8)
  | tooLong
deriving DecidableEq

/-- The line so far, and whether it is beyond the limit. -/
structure PartialLine where
  line : List UInt8
  tooLong : Bool

def PartialLine.extend (maximum : Nat) (kept : PartialLine) (bytes : List UInt8) : PartialLine :=
  if kept.tooLong then kept
  else if maximum < min (kept.line.length + bytes.length) usizeMax then { kept with tooLong := true }
  else { kept with line := kept.line ++ bytes }

def popCarriageReturn (line : List UInt8) : List UInt8 :=
  if line.getLast? = some carriageReturn then line.dropLast else line

/-- `consume` of a part of the first buffer. -/
def consumed (remaining : List UInt8) (reader : List Buffer) : List Buffer :=
  if more : remaining ≠ [] then ⟨remaining, more⟩ :: reader else reader

/-- The loop of `read_bounded_frame`, and the reader after it. -/
def readFrom (maximum : Nat) : List Buffer → PartialLine → FrameRead × List Buffer
  | [], kept =>
    if kept.tooLong then (.tooLong, [])
    else if kept.line = [] then (.eof, [])
    else (.line kept.line, [])
  | available :: reader, kept =>
    match available.1.findIdx? (· == newline) with
    | some position =>
      let kept := kept.extend maximum (available.1.take position)
      let reader := consumed (available.1.drop (position + 1)) reader
      if kept.tooLong then (.tooLong, reader)
      else (.line (popCarriageReturn kept.line), reader)
    | none => readFrom maximum reader (kept.extend maximum available.1)

def readBoundedFrame (maximum : Nat) (reader : List Buffer) : FrameRead × List Buffer :=
  readFrom maximum reader ⟨[], false⟩

/-- What repeated calls return, up to the end of the stream. -/
inductive Reads (maximum : Nat) : List Buffer → List FrameRead → Prop
  | last {reader rest : List Buffer} (ended : readBoundedFrame maximum reader = (.eof, rest)) :
      Reads maximum reader [.eof]
  | more {reader rest : List Buffer} {frame : FrameRead} {frames : List FrameRead}
      (read : readBoundedFrame maximum reader = (frame, rest)) (goes : frame ≠ .eof)
      (following : Reads maximum rest frames) : Reads maximum reader (frame :: frames)

/-! ## The frames of a stream -/

/-- The result for a line that ends with a newline. -/
def terminated (maximum : Nat) (segment : List UInt8) : FrameRead :=
  if maximum < segment.length then .tooLong else .line (popCarriageReturn segment)

/-- The result for what is left without a newline. -/
def unterminated (maximum : Nat) (tail : List UInt8) : FrameRead :=
  if maximum < tail.length then .tooLong else .line tail

def framesOfSegments (maximum : Nat) : List (List UInt8) → List FrameRead
  | [] => [.eof]
  | [tail] => if tail = [] then [.eof] else [unterminated maximum tail, .eof]
  | segment :: rest => terminated maximum segment :: framesOfSegments maximum rest

def framesOf (maximum : Nat) (stream : List UInt8) : List FrameRead :=
  framesOfSegments maximum (stream.splitOn newline)

theorem framesOf_line {maximum : Nat} {segment : List UInt8} (whole : newline ∉ segment)
    (rest : List UInt8) : framesOf maximum (segment ++ newline :: rest) =
      terminated maximum segment :: framesOf maximum rest := by
  rw [framesOf, List.splitOn_append_cons_self_of_not_mem whole]
  cases split : rest.splitOn newline with
  | nil => exact absurd split (List.splitOn_ne_nil _ _)
  | cons first others => rw [framesOfSegments, framesOf, split]; simp

/-! ## One call -/

/-- A partial line that stands for the bytes seen. -/
def PartialLine.Holds (maximum : Nat) (kept : PartialLine) (seen : List UInt8) : Prop :=
  (kept.tooLong = true ∧ maximum < seen.length) ∨
    (kept.tooLong = false ∧ seen.length ≤ maximum ∧ kept.line = seen)

variable {maximum : Nat}

theorem PartialLine.Holds.extend (small : maximum < usizeMax) {kept : PartialLine}
    {seen : List UInt8} (holds : kept.Holds maximum seen) (bytes : List UInt8) :
    (kept.extend maximum bytes).Holds maximum (seen ++ bytes) := by
  unfold PartialLine.extend
  rcases holds with ⟨long, beyond⟩ | ⟨short, within, rfl⟩
  · rw [if_pos long]
    exact .inl ⟨long, by rw [List.length_append]; omega⟩
  · rw [if_neg (by simp [short])]
    by_cases fits : kept.line.length + bytes.length ≤ maximum
    · rw [if_neg (by omega)]
      exact .inr ⟨short, by rwa [List.length_append], rfl⟩
    · rw [if_pos (by omega)]
      exact .inl ⟨rfl, by rw [List.length_append]; omega⟩

theorem streamOf_consumed (remaining : List UInt8) (reader : List Buffer) :
    streamOf (consumed remaining reader) = remaining ++ streamOf reader := by
  unfold consumed
  split
  · rfl
  · rename_i empty
    rw [not_not.1 empty]
    rfl

theorem position_eq_some {bytes : List UInt8} {position : Nat}
    (found : bytes.findIdx? (· == newline) = some position) :
    newline ∉ bytes.take position ∧
      bytes = bytes.take position ++ newline :: bytes.drop (position + 1) := by
  obtain ⟨inside, here, before⟩ := List.findIdx?_eq_some_iff_getElem.1 found
  constructor
  · intro member
    obtain ⟨i, short, same⟩ := List.mem_iff_getElem.1 member
    rw [List.length_take] at short
    rw [List.getElem_take] at same
    exact before i (by omega) (beq_iff_eq.2 same)
  · have split := List.take_append_drop position bytes
    rwa [List.drop_eq_getElem_cons inside, beq_iff_eq.1 here, eq_comm] at split

theorem position_eq_none {bytes : List UInt8}
    (absent : bytes.findIdx? (· == newline) = none) : newline ∉ bytes := by
  intro member
  exact absurd (List.findIdx?_eq_none_iff.1 absent newline member) (by decide)

/-- A stream has one first line. -/
theorem first_line_unique {before before' after after' : List UInt8} (whole : newline ∉ before)
    (whole' : newline ∉ before')
    (same : before ++ newline :: after = before' ++ newline :: after') :
    before = before' ∧ after = after' := by
  have split := congrArg (List.splitOn newline) same
  rw [List.splitOn_append_cons_self_of_not_mem whole,
    List.splitOn_append_cons_self_of_not_mem whole', List.cons.injEq] at split
  obtain ⟨rfl, _⟩ := split
  exact ⟨rfl, by simpa using same⟩

variable {reader : List Buffer}

/-- **A call reads one line**, from wherever it stands in it, and leaves what follows. -/
theorem readFrom_line (small : maximum < usizeMax) {kept : PartialLine}
    {seen before after : List UInt8} (holds : kept.Holds maximum seen) (whole : newline ∉ before)
    (split : streamOf reader = before ++ newline :: after) :
    ∃ rest, readFrom maximum reader kept = (terminated maximum (seen ++ before), rest) ∧
      streamOf rest = after := by
  induction reader generalizing kept seen before with
  | nil => simp [streamOf] at split
  | cons available reader ih =>
    rw [show streamOf (available :: reader) = available.1 ++ streamOf reader from rfl] at split
    unfold readFrom
    cases found : available.1.findIdx? (· == newline) with
    | some position =>
      obtain ⟨whole', parts⟩ := position_eq_some found
      rw [parts, List.append_assoc, List.cons_append] at split
      obtain ⟨rfl, rfl⟩ := first_line_unique whole' whole split
      refine ⟨_, ?_, streamOf_consumed _ _⟩
      dsimp only
      rw [terminated]
      rcases holds.extend small (available.1.take position) with ⟨long, beyond⟩ | ⟨short, within, same⟩
      · rw [if_pos long, if_pos beyond]
      · rw [if_neg (by simp [short]), if_neg (by omega), same]
    | none =>
      have absent := position_eq_none found
      -- the buffer is part of the line
      obtain ⟨before', rfl, rest⟩ : ∃ before', before = available.1 ++ before' ∧
          streamOf reader = before' ++ newline :: after := by
        rcases List.append_eq_append_iff.1 split with ⟨before', same, rest⟩ | ⟨extra, same, rest⟩
        · exact ⟨before', same, rest⟩
        · cases extra with
          | nil => exact ⟨[], by simpa using same.symm, by simpa using rest.symm⟩
          | cons byte extra =>
            rw [List.cons_append, List.cons.injEq] at rest
            rw [same, rest.1] at absent
            exact absurd (by simp) absent
      obtain ⟨final, read, left⟩ := ih (holds.extend small available.1)
        (fun member => whole (List.mem_append_right _ member)) rest
      exact ⟨final, by rw [← List.append_assoc]; exact read, left⟩

/-- A call reads what is left without a newline. -/
theorem readFrom_tail (small : maximum < usizeMax) {kept : PartialLine} {seen : List UInt8}
    (holds : kept.Holds maximum seen) (whole : newline ∉ streamOf reader) :
    readFrom maximum reader kept =
      (if seen ++ streamOf reader = [] then .eof else unterminated maximum (seen ++ streamOf reader),
        []) := by
  induction reader generalizing kept seen with
  | nil =>
    rw [readFrom, streamOf, List.flatMap_nil, List.append_nil, unterminated]
    rcases holds with ⟨long, beyond⟩ | ⟨short, within, rfl⟩
    · have some_ : seen ≠ [] := by
        rintro rfl
        exact absurd beyond (Nat.not_lt_zero _)
      rw [if_pos long, if_neg some_, if_pos beyond]
    · rw [if_neg (by simp [short]), if_neg (by omega : ¬ maximum < kept.line.length)]
      split <;> rfl
  | cons available reader ih =>
    rw [show streamOf (available :: reader) = available.1 ++ streamOf reader from rfl] at whole ⊢
    rw [List.mem_append, not_or] at whole
    unfold readFrom
    have absent : available.1.findIdx? (· == newline) = none := by
      refine List.findIdx?_eq_none_iff.2 fun byte member => beq_eq_false_iff_ne.2 ?_
      rintro rfl
      exact whole.1 member
    rw [absent, ← List.append_assoc]
    exact ih (holds.extend small available.1) whole.2

/-! ## All calls -/

theorem Reads.unique {frames frames' : List FrameRead} (left : Reads maximum reader frames)
    (right : Reads maximum reader frames') :
    frames = frames' := by
  induction left generalizing frames' with
  | last ended =>
    cases right with
    | last _ => rfl
    | more read goes _ =>
      rw [ended] at read
      cases read
      exact absurd rfl goes
  | more read goes _ ih =>
    cases right with
    | last ended =>
      rw [read] at ended
      cases ended
      exact absurd rfl goes
    | more read' _ following =>
      rw [read] at read'
      cases read'
      rw [ih following]

/-- The calls read the frames of the stream. -/
theorem reads_framesOf (small : maximum < usizeMax) (reader : List Buffer) :
    Reads maximum reader (framesOf maximum (streamOf reader)) := by
  have fresh : PartialLine.Holds maximum ⟨[], false⟩ [] := .inr ⟨rfl, Nat.zero_le _, rfl⟩
  induction size : (streamOf reader).length using Nat.strong_induction_on generalizing reader with
  | _ n ih =>
    subst size
    by_cases more : newline ∈ streamOf reader
    · obtain ⟨before, after, split, whole⟩ := List.eq_append_cons_of_mem more
      obtain ⟨rest, read, left⟩ := readFrom_line small fresh whole split
      rw [List.nil_append] at read
      have fewer : (streamOf rest).length < (streamOf reader).length := by
        rw [left, split]
        simp
        omega
      rw [split, framesOf_line whole, ← left]
      refine .more read ?_ (ih _ fewer rest rfl)
      rw [terminated]
      split_ifs <;> simp
    · have read := readFrom_tail small fresh more
      rw [List.nil_append] at read
      rw [framesOf, List.splitOn_eq_singleton more, framesOfSegments]
      by_cases ended : streamOf reader = []
      · rw [if_pos ended] at read ⊢
        exact .last read
      · rw [if_neg ended] at read ⊢
        refine .more read ?_ (.last rfl)
        rw [unterminated]
        split_ifs <;> simp

/-- **Framing is independent of chunking.**  Whatever the buffers, the calls return the frames
of the stream, and at its end they keep returning that it has ended.  The limit that
`read_protocol_frame` passes is 2097152. -/
theorem framing_independent (small : maximum < usizeMax) (reader : List Buffer) :
    (∀ frames, Reads maximum reader frames ↔ frames = framesOf maximum (streamOf reader)) ∧
      readBoundedFrame maximum [] = (.eof, []) := by
  have reads := reads_framesOf small reader
  refine ⟨fun frames => ⟨fun other => other.unique reads, ?_⟩, rfl⟩
  rintro rfl
  exact reads

/-- Two lines and a tail in three buffers, one of which ends inside the first line's end. -/
theorem framing_independent_sample :
    Reads 4 [⟨[97, 13], by decide⟩, ⟨[10, 98, 98, 98, 98, 98], by decide⟩, ⟨[10, 99, 13], by decide⟩]
      [.line [97], .tooLong, .line [99, 13], .eof] :=
  ((@framing_independent 4 (by decide) _).1 _).2 (by decide +kernel)

end YHarness.Protocol

/-
# YHarness.Transport.BoundedLine -- the MCP frame bound loses nothing

`BoundedLineReader` of `src/transport/mcp.rs` between a reader of the server's output and
a caller.  It counts the bytes of the current line over all reads and drops the chunk in
which the count goes over.  Since no read asks for more than the room left in the line
and one byte, that chunk holds bytes of the overlong line only (`scan_overlong`).

`allowed` says what a caller may get of a stream.  Over any reads the bytes delivered
are what of it has been read (`Kept`).
-/
import Mathlib
import YHarness.Lib.Lines

namespace YHarness.Transport

open YHarness.Lib

set_option autoImplicit false

/-! ## The reader -/

def scratchBytes : Nat := 8192

/-- `usize::MAX`. -/
def usizeMax : Nat := 2 ^ 64 - 1

/-- `BoundedLineReader` without its inner reader. -/
structure BoundedLineReader where
  lineBytes : Nat
  maxLineBytes : UInt64
  failed : Bool

/-- What the inner reader does when polled: up to `size` bytes of its stream. -/
inductive InnerPoll where
  | pending
  | error (message : String)
  | ready (size : Nat)

inductive PollRead where
  | pending
  | error (message : String)
  | ready (bytes : List UInt8)

def frameExceeds : String := "MCP frame exceeds configured limit"

/-- The loop over the bytes read: the count it ends with, and how it failed. -/
def scan (maxLineBytes : Nat) : Nat → List UInt8 → Nat × Option String
  | lineBytes, [] => (lineBytes, none)
  | lineBytes, byte :: rest =>
    if byte = newlineByte then scan maxLineBytes 0 rest
    else if lineBytes = usizeMax then (lineBytes, some "MCP frame size overflow")
    else if maxLineBytes < lineBytes + 1 then (lineBytes + 1, some frameExceeds)
    else scan maxLineBytes (lineBytes + 1) rest

/-- `poll_read` with room for `remaining` bytes; `stream` is what the inner reader has
not returned yet. -/
def BoundedLineReader.pollRead (reader : BoundedLineReader) (remaining : Nat) (inner : InnerPoll)
    (stream : List UInt8) : PollRead × BoundedLineReader × List UInt8 :=
  if reader.failed then (.error frameExceeds, reader, stream)
  else if remaining = 0 then (.ready [], reader, stream)
  else
    let currentLineCapacity := min (reader.maxLineBytes.toNat - reader.lineBytes + 1) usizeMax
    let readCapacity := min (min remaining scratchBytes) currentLineCapacity
    match inner with
    | .pending => (.pending, reader, stream)
    | .error message => (.error message, reader, stream)
    | .ready size =>
      let filled := stream.take (min size readCapacity)
      match scan reader.maxLineBytes.toNat reader.lineBytes filled with
      | (lineBytes, some message) =>
        (.error message, { reader with lineBytes, failed := true }, stream.drop filled.length)
      | (lineBytes, none) =>
        (.ready filled, { reader with lineBytes }, stream.drop filled.length)

/-- A stream being read: what is left of it, and what the caller has got. -/
structure Reading where
  reader : BoundedLineReader
  left : List UInt8
  delivered : List UInt8

/-- One read. -/
def Reading.poll (s : Reading) (read : Nat × InnerPoll) : Reading :=
  match s.reader.pollRead read.1 read.2 s.left with
  | (.ready bytes, reader, left) => ⟨reader, left, s.delivered ++ bytes⟩
  | (_, reader, left) => ⟨reader, left, s.delivered⟩

/-- `BoundedLineReader::new` on a stream, and reads of it. -/
def readAll (maxLineBytes : UInt64) (stream : List UInt8) (reads : List (Nat × InnerPoll)) :
    Reading :=
  reads.foldl Reading.poll ⟨⟨0, maxLineBytes, false⟩, stream, []⟩

/-- A read in which the caller has room and the inner reader returns something. -/
def advances (read : Nat × InnerPoll) : Bool :=
  match read with
  | (remaining, .ready size) => decide (0 < remaining) && decide (0 < size)
  | _ => false

/-! ## What a caller may get -/

/-- The stream up to `maximum` bytes of its first overlong line, with `used` bytes of the
current line before it. -/
def allowed (maximum : Nat) : Nat → List UInt8 → List UInt8
  | _, [] => []
  | used, byte :: rest =>
    if byte = newlineByte then byte :: allowed maximum 0 rest
    else if used < maximum then byte :: allowed maximum (used + 1) rest
    else []

/-- There is an overlong line. -/
def overlong (maximum : Nat) : Nat → List UInt8 → Bool
  | _, [] => false
  | used, byte :: rest =>
    if byte = newlineByte then overlong maximum 0 rest
    else if used < maximum then overlong maximum (used + 1) rest
    else true

/-- Complete lines. -/
def closedLines (lines : List (List UInt8)) : List UInt8 :=
  lines.flatMap (· ++ [newlineByte])

/-- Bytes of one line, no more than the maximum. -/
def Within (maximum : Nat) (line : List UInt8) : Prop :=
  newlineByte ∉ line ∧ line.length ≤ maximum

section Allowed

theorem allowed_line (maximum : Nat) {bytes : List UInt8} (plain : newlineByte ∉ bytes) :
    ∀ used : Nat, used + bytes.length ≤ maximum → ∀ rest : List UInt8,
      allowed maximum used (bytes ++ rest) = bytes ++ allowed maximum (used + bytes.length) rest ∧
      overlong maximum used (bytes ++ rest) = overlong maximum (used + bytes.length) rest := by
  induction bytes with
  | nil => intro used _ rest; exact ⟨rfl, rfl⟩
  | cons byte bytes ih =>
    intro used fits rest
    rw [List.mem_cons, not_or] at plain
    rw [List.length_cons] at fits
    have deeper := ih plain.2 (used + 1) (by omega) rest
    rw [List.cons_append, allowed, overlong, if_neg (Ne.symm plain.1), if_neg (Ne.symm plain.1),
      if_pos (by omega), if_pos (by omega), deeper.1, deeper.2, List.length_cons]
    rw [show used + 1 + bytes.length = used + (bytes.length + 1) by omega]
    exact ⟨rfl, rfl⟩

variable {maximum : Nat}

variable {lines : List (List UInt8)}

theorem allowed_closedLines (within : ∀ line ∈ lines, Within maximum line) (rest : List UInt8) :
    allowed maximum 0 (closedLines lines ++ rest) = closedLines lines ++ allowed maximum 0 rest ∧
      overlong maximum 0 (closedLines lines ++ rest) = overlong maximum 0 rest := by
  induction lines with
  | nil => exact ⟨rfl, rfl⟩
  | cons line lines ih =>
    obtain ⟨plain, short⟩ := within line List.mem_cons_self
    have later := ih fun other member => within other (List.mem_cons_of_mem _ member)
    have here := allowed_line maximum plain 0 (by omega)
      (newlineByte :: (closedLines lines ++ rest))
    rw [allowed, overlong, if_pos rfl, if_pos rfl, later.1, later.2] at here
    simpa only [closedLines, List.flatMap_cons, List.append_assoc, List.cons_append,
      List.nil_append] using here

/-- A stream without an overlong line is allowed whole. -/
theorem allowed_short {tail : List UInt8} (within : ∀ line ∈ lines, Within maximum line)
    (last : Within maximum tail) :
    allowed maximum 0 (closedLines lines ++ tail) = closedLines lines ++ tail ∧
      overlong maximum 0 (closedLines lines ++ tail) = false := by
  obtain ⟨bytes, beyond⟩ := allowed_closedLines within tail
  have here := allowed_line maximum last.1 0 (by have := last.2; omega) []
  rw [List.append_nil] at here
  rw [bytes, beyond, here.1, here.2]
  exact ⟨by rw [allowed, List.append_nil], rfl⟩

/-- Of the first overlong line, `maximum` bytes are allowed. -/
theorem allowed_overlong {lines : List (List UInt8)} {long rest : List UInt8}
    (within : ∀ line ∈ lines, Within maximum line) (plain : newlineByte ∉ long)
    (beyond : long.length = maximum + 1) :
    allowed maximum 0 (closedLines lines ++ (long ++ rest)) =
        closedLines lines ++ long.take maximum ∧
      overlong maximum 0 (closedLines lines ++ (long ++ rest)) = true := by
  obtain ⟨bytes, whether⟩ := allowed_closedLines within (long ++ rest)
  rw [bytes, whether]
  have short : (long.take maximum).length = maximum := by
    rw [List.length_take]
    omega
  cases last : long.drop maximum with
  | nil =>
    have none := congrArg List.length last
    rw [List.length_drop, List.length_nil] at none
    omega
  | cons byte others =>
    have other : byte ≠ newlineByte := by
      rintro rfl
      exact plain (List.mem_of_mem_drop (last ▸ List.mem_cons_self))
    have before : newlineByte ∉ long.take maximum :=
      fun member => plain (List.mem_of_mem_take member)
    have here := allowed_line maximum before 0 (by omega) (byte :: (others ++ rest))
    rw [short, allowed, overlong, if_neg other, if_neg other, if_neg (by omega),
      if_neg (by omega), List.append_nil] at here
    have whole : long ++ rest = long.take maximum ++ byte :: (others ++ rest) := by
      rw [← List.cons_append, ← last, ← List.append_assoc, List.take_append_drop]
    rw [whole, here.1, here.2]
    exact ⟨rfl, rfl⟩

/-- Every stream is of one of the two shapes. -/
theorem short_or_overlong (stream : List UInt8) :
    ∀ {begun : List UInt8}, Within maximum begun →
      (∃ lines tail, (∀ line ∈ lines, Within maximum line) ∧ Within maximum tail ∧
        begun ++ stream = closedLines lines ++ tail) ∨
      ∃ lines long rest, (∀ line ∈ lines, Within maximum line) ∧ newlineByte ∉ long ∧
        long.length = maximum + 1 ∧ begun ++ stream = closedLines lines ++ (long ++ rest) := by
  induction stream with
  | nil => intro begun within; exact .inl ⟨[], begun, nofun, within, List.append_nil _⟩
  | cons byte stream ih =>
    intro begun within
    by_cases newline : byte = newlineByte
    · subst newline
      have closes : ∀ lines, closedLines (begun :: lines) =
          begun ++ newlineByte :: closedLines lines := by
        intro lines
        simp [closedLines]
      have others : ∀ {lines : List (List UInt8)}, (∀ line ∈ lines, Within maximum line) →
          ∀ line ∈ begun :: lines, Within maximum line :=
        fun each => List.forall_mem_cons.2 ⟨within, each⟩
      rcases ih (⟨List.not_mem_nil, Nat.zero_le _⟩ : Within maximum []) with
        ⟨lines, tail, each, last, same⟩ | ⟨lines, long, rest, each, plain, beyond, same⟩
      · exact .inl ⟨begun :: lines, tail, others each, last, by
          rw [closes, ← List.nil_append stream, same]; simp⟩
      · exact .inr ⟨begun :: lines, long, rest, others each, plain, beyond, by
          rw [closes, ← List.nil_append stream, same]; simp⟩
    · have plain : newlineByte ∉ begun ++ [byte] := by
        simp [within.1, Ne.symm newline]
      have longer : (begun ++ [byte]).length = begun.length + 1 := by simp
      have moved : begun ++ byte :: stream = begun ++ [byte] ++ stream := by simp
      rw [moved]
      by_cases room : begun.length < maximum
      · exact ih ⟨plain, by omega⟩
      · have full := within.2
        exact .inr ⟨[], begun ++ [byte], stream, nofun, plain, by omega, rfl⟩

/-- What ends before bytes without a newline has all the complete lines. -/
theorem closedLines_prefix {after bytes missing : List UInt8}
    (same : closedLines lines ++ after = bytes ++ missing) (plain : newlineByte ∉ missing) :
    closedLines lines <+: bytes := by
  rcases List.append_eq_append_iff.1 same with ⟨more, rfl, _⟩ | ⟨cut, parts, rfl⟩
  · exact List.prefix_append _ _
  · cases cut using List.reverseRecOn with
    | nil => exact ⟨[], by rw [parts]; simp⟩
    | append_singleton front last =>
      exfalso
      cases lines using List.reverseRecOn with
      | nil => simp [closedLines] at parts
      | append_singleton earlier line =>
        have ends : closedLines (earlier ++ [line]) =
            closedLines earlier ++ line ++ [newlineByte] := by
          simp [closedLines]
        rw [ends, ← List.append_assoc] at parts
        have final := List.append_inj_right' parts rfl
        rw [List.cons.injEq] at final
        exact plain (by simp [final.1])

end Allowed

/-! ## One chunk -/

section Scan

variable {maximum : Nat}

/-- A chunk that fits the room left does not fail. -/
theorem scan_fits (small : maximum ≤ usizeMax) {bytes : List UInt8} :
    ∀ {used : Nat}, used + bytes.length ≤ maximum → (scan maximum used bytes).2 = none := by
  induction bytes with
  | nil => intro used _; rfl
  | cons byte bytes ih =>
    intro used fits
    rw [List.length_cons] at fits
    rw [scan]
    by_cases newline : byte = newlineByte
    · rw [if_pos newline]
      exact ih (by omega)
    · rw [if_neg newline, if_neg (by omega), if_neg (by omega)]
      exact ih (by omega)

/-- A chunk that does not fail is allowed, and the count goes on from its last line. -/
theorem scan_allowed {bytes : List UInt8} :
    ∀ {used after : Nat}, scan maximum used bytes = (after, none) → used ≤ maximum →
      after ≤ maximum ∧ ∀ rest,
        allowed maximum used (bytes ++ rest) = bytes ++ allowed maximum after rest ∧
        overlong maximum used (bytes ++ rest) = overlong maximum after rest := by
  induction bytes with
  | nil =>
    intro used after scanned room
    cases scanned
    exact ⟨room, fun _ => ⟨rfl, rfl⟩⟩
  | cons byte bytes ih =>
    intro used after scanned room
    rw [scan] at scanned
    by_cases newline : byte = newlineByte
    · rw [if_pos newline] at scanned
      obtain ⟨within, same⟩ := ih scanned (Nat.zero_le _)
      refine ⟨within, fun rest => ?_⟩
      rw [List.cons_append, allowed, overlong, if_pos newline, if_pos newline, (same rest).1]
      exact ⟨rfl, (same rest).2⟩
    · rw [if_neg newline] at scanned
      split at scanned
      · cases scanned
      · split at scanned
        · cases scanned
        · rename_i fits
          obtain ⟨within, same⟩ := ih scanned (by omega)
          refine ⟨within, fun rest => ?_⟩
          rw [List.cons_append, allowed, overlong, if_neg newline, if_neg newline,
            if_pos (by omega), if_pos (by omega), (same rest).1]
          exact ⟨rfl, (same rest).2⟩

/-- **The chunk that fails** is no longer than the room left and one byte, so a newline
in it would leave room for the others: all of it belongs to the overlong line. -/
theorem scan_overlong (small : maximum ≤ usizeMax) {bytes : List UInt8} {after : Nat}
    {message : String} :
    ∀ {used : Nat}, scan maximum used bytes = (after, some message) → used ≤ maximum →
      bytes.length ≤ maximum - used + 1 → ∀ rest,
        overlong maximum used (bytes ++ rest) = true ∧
        newlineByte ∉ allowed maximum used (bytes ++ rest) := by
  induction bytes with
  | nil => intro used scanned; cases scanned
  | cons byte bytes ih =>
    intro used scanned room short rest
    rw [List.length_cons] at short
    rw [scan] at scanned
    by_cases newline : byte = newlineByte
    · rw [if_pos newline] at scanned
      have fits := @scan_fits maximum small bytes 0 (by omega)
      rw [scanned] at fits
      cases fits
    · rw [if_neg newline] at scanned
      rw [List.cons_append, allowed, overlong, if_neg newline, if_neg newline]
      by_cases inside : used < maximum
      · rw [if_neg (by omega), if_neg (by omega)] at scanned
        obtain ⟨beyond, plain⟩ := ih scanned (by omega) (by omega) rest
        rw [if_pos inside, if_pos inside, List.mem_cons, not_or]
        exact ⟨beyond, Ne.symm newline, plain⟩
      · rw [if_neg inside, if_neg inside]
        exact ⟨rfl, List.not_mem_nil⟩

end Scan

/-! ## Any reads -/

section Reads

/-- What one read does: nothing, or a chunk within the room left is read and scanned. -/
theorem Reading.poll_cases (s : Reading) (read : Nat × InnerPoll) :
    (s.poll read = s ∧ (advances read = true → s.reader.failed = true)) ∨
    ∃ size, size ≤ s.reader.maxLineBytes.toNat - s.reader.lineBytes + 1 ∧
      (advances read = true → 0 < size) ∧ s.reader.failed = false ∧
      ∃ after failure, scan s.reader.maxLineBytes.toNat s.reader.lineBytes (s.left.take size) =
          (after, failure) ∧
        s.poll read = ⟨⟨after, s.reader.maxLineBytes, failure.isSome⟩,
          s.left.drop (s.left.take size).length,
          s.delivered ++ if failure.isSome then [] else s.left.take size⟩ := by
  obtain ⟨remaining, inner⟩ := read
  rw [poll, BoundedLineReader.pollRead]
  cases failed : s.reader.failed with
  | true => exact .inl ⟨rfl, fun _ => rfl⟩
  | false =>
    rw [if_neg Bool.false_ne_true]
    by_cases room : remaining = 0
    · rw [if_pos room]
      refine .inl ⟨?_, fun advanced => ?_⟩
      · dsimp only
        rw [List.append_nil]
      · cases inner <;> simp [advances, room] at advanced
    · rw [if_neg room]
      cases inner with
      | pending => exact .inl ⟨rfl, nofun⟩
      | error message => exact .inl ⟨rfl, nofun⟩
      | ready size =>
        dsimp only
        generalize capacity : min (min remaining scratchBytes) _ = readCapacity
        refine .inr ⟨min size readCapacity, ?_, ?_, rfl, ?_⟩
        · omega
        · intro advanced
          have positive := (Bool.and_eq_true_iff.1 advanced).2
          rw [decide_eq_true_eq] at positive
          simp only [scratchBytes, usizeMax] at capacity
          omega
        · cases scanned : scan s.reader.maxLineBytes.toNat s.reader.lineBytes
            (s.left.take (min size readCapacity)) with
          | mk after failure =>
            refine ⟨after, failure, rfl, ?_⟩
            cases failure with
            | none => simp
            | some message => simp

/-- The bytes delivered so far are what of the stream was allowed and read. -/
structure Kept (maxLineBytes : UInt64) (stream : List UInt8) (s : Reading) : Prop where
  bound : s.reader.maxLineBytes = maxLineBytes
  running : s.reader.failed = false → s.reader.lineBytes ≤ maxLineBytes.toNat ∧
    s.delivered ++ s.left = stream ∧
    allowed maxLineBytes.toNat 0 stream =
      s.delivered ++ allowed maxLineBytes.toNat s.reader.lineBytes s.left ∧
    overlong maxLineBytes.toNat 0 stream =
      overlong maxLineBytes.toNat s.reader.lineBytes s.left
  stopped : s.reader.failed = true → overlong maxLineBytes.toNat 0 stream = true ∧
    ∃ missing, newlineByte ∉ missing ∧
      allowed maxLineBytes.toNat 0 stream = s.delivered ++ missing

variable {maxLineBytes : UInt64} {stream : List UInt8}

/-- **One read.** -/
theorem Kept.poll {s : Reading} (kept : Kept maxLineBytes stream s) (read : Nat × InnerPoll) :
    Kept maxLineBytes stream (s.poll read) := by
  rcases s.poll_cases read with ⟨same, _⟩ | ⟨size, short, _, running, after, failure, scanned, next⟩
  · rw [same]
    exact kept
  · obtain ⟨room, whole, bytes, beyond⟩ := kept.running running
    have parts := List.prefix_iff_eq_append.1 (List.take_prefix size s.left)
    have small : maxLineBytes.toNat ≤ usizeMax := by
      have bounded := maxLineBytes.toNat_lt
      simp only [usizeMax]
      omega
    rw [kept.bound] at scanned short
    rw [next]
    cases failure with
    | none =>
      obtain ⟨within, same⟩ := scan_allowed scanned room
      have here := same (s.left.drop (s.left.take size).length)
      rw [parts] at here
      refine ⟨kept.bound, fun _ => ⟨within, ?_, ?_, ?_⟩, nofun⟩
      · show s.delivered ++ s.left.take size ++ _ = stream
        rw [List.append_assoc, parts, whole]
      · rw [bytes, here.1, ← List.append_assoc]
        rfl
      · rw [beyond, here.2]
    | some message =>
      have length : (s.left.take size).length ≤ maxLineBytes.toNat - s.reader.lineBytes + 1 := by
        rw [List.length_take]
        omega
      obtain ⟨exceeds, plain⟩ := scan_overlong small scanned room length
        (s.left.drop (s.left.take size).length)
      rw [parts] at exceeds plain
      refine ⟨kept.bound, nofun, fun _ => ⟨beyond.trans exceeds, _, plain, ?_⟩⟩
      rw [bytes]
      exact congrArg (· ++ _) (List.append_nil _).symm

/-- Reads that advance deliver the stream byte by byte at least. -/
theorem Kept.progress {s : Reading} (kept : Kept maxLineBytes stream s) (read : Nat × InnerPoll)
    {count : Nat} (reached : s.reader.failed = false → min stream.length count ≤ s.delivered.length)
    (running : (s.poll read).reader.failed = false) :
    min stream.length (count + if advances read then 1 else 0) ≤ (s.poll read).delivered.length := by
  rcases s.poll_cases read with ⟨same, stays⟩ | ⟨size, _, positive, before, after, failure, _, next⟩
  · rw [same] at running ⊢
    have still : advances read = false := by
      rw [← Bool.not_eq_true]
      intro advanced
      rw [stays advanced] at running
      cases running
    rw [still]
    exact reached running
  · have far := reached before
    rw [next] at running ⊢
    cases failure with
    | some message => cases running
    | none =>
      have whole := congrArg List.length (kept.running before).2.1
      rw [List.length_append] at whole
      simp only [Option.isSome_none, Bool.false_eq_true, if_false, List.length_append,
        List.length_take]
      by_cases advanced : advances read = true
      · have some := positive advanced
        rw [if_pos advanced]
        omega
      · rw [if_neg advanced]
        omega

/-- **Any reads.** -/
theorem Kept.readAll (maxLineBytes : UInt64) (stream : List UInt8) (reads : List (Nat × InnerPoll)) :
    Kept maxLineBytes stream (readAll maxLineBytes stream reads) ∧
      ((readAll maxLineBytes stream reads).reader.failed = false →
        min stream.length (reads.filter advances).length ≤
          (readAll maxLineBytes stream reads).delivered.length) := by
  induction reads using List.reverseRecOn with
  | nil =>
    refine ⟨⟨rfl, fun _ => ⟨Nat.zero_le _, rfl, rfl, rfl⟩, nofun⟩, fun _ => ?_⟩
    simp
  | append_singleton reads read ih =>
    obtain ⟨kept, reached⟩ := ih
    rw [Transport.readAll, List.foldl_append, List.foldl_cons, List.foldl_nil, ← Transport.readAll]
    refine ⟨kept.poll read, fun running => ?_⟩
    have further := kept.progress read reached running
    rw [List.filter_append, List.length_append]
    cases advanced : advances read <;> simpa [advanced] using further

/-- **The frame bound loses nothing.**  The caller gets a prefix of the stream: all of it
when no line is overlong; otherwise all lines before the first overlong line and at most
the maximum of that one, and then only failures. -/
theorem frame_bound_lossless (maxLineBytes : UInt64) (stream : List UInt8)
    (reads : List (Nat × InnerPoll)) :
    (readAll maxLineBytes stream reads).delivered <+: stream ∧
    (∀ lines tail, (∀ line ∈ lines, Within maxLineBytes.toNat line) →
      Within maxLineBytes.toNat tail → stream = closedLines lines ++ tail →
        (readAll maxLineBytes stream reads).reader.failed = false ∧
        (readAll maxLineBytes stream reads).delivered ++ (readAll maxLineBytes stream reads).left =
          stream ∧
        (stream.length ≤ (reads.filter advances).length →
          (readAll maxLineBytes stream reads).delivered = stream)) ∧
    (∀ lines long rest, (∀ line ∈ lines, Within maxLineBytes.toNat line) →
      newlineByte ∉ long → long.length = maxLineBytes.toNat + 1 →
      stream = closedLines lines ++ (long ++ rest) →
        (readAll maxLineBytes stream reads).delivered <+:
          closedLines lines ++ long.take maxLineBytes.toNat ∧
        ((readAll maxLineBytes stream reads).reader.failed = true →
          closedLines lines <+: (readAll maxLineBytes stream reads).delivered) ∧
        (stream.length ≤ (reads.filter advances).length →
          (readAll maxLineBytes stream reads).reader.failed = true)) ∧
    ((∃ lines tail, (∀ line ∈ lines, Within maxLineBytes.toNat line) ∧
        Within maxLineBytes.toNat tail ∧ stream = closedLines lines ++ tail) ∨
      ∃ lines long rest, (∀ line ∈ lines, Within maxLineBytes.toNat line) ∧
        newlineByte ∉ long ∧ long.length = maxLineBytes.toNat + 1 ∧
        stream = closedLines lines ++ (long ++ rest)) ∧
    ((readAll maxLineBytes stream reads).reader.failed = true → ∀ remaining inner left,
      (readAll maxLineBytes stream reads).reader.pollRead remaining inner left =
        (.error frameExceeds, (readAll maxLineBytes stream reads).reader, left)) := by
  obtain ⟨kept, reached⟩ := Kept.readAll maxLineBytes stream reads
  generalize readAll maxLineBytes stream reads = s at kept reached ⊢
  have got : ∃ missing, allowed maxLineBytes.toNat 0 stream = s.delivered ++ missing := by
    cases failed : s.reader.failed with
    | false => exact ⟨_, (kept.running failed).2.2.1⟩
    | true => exact (kept.stopped failed).2.imp fun _ parts => parts.2
  obtain ⟨missing, parts⟩ := got
  have shapes := short_or_overlong stream
    (⟨List.not_mem_nil, Nat.zero_le _⟩ : Within maxLineBytes.toNat [])
  refine ⟨?_, ?_, ?_, shapes, ?_⟩
  · rcases shapes with ⟨lines, tail, within, last, same⟩ |
      ⟨lines, long, rest, within, plain, beyond, same⟩
    · rw [List.nil_append] at same
      rw [same, (allowed_short within last).1, ← same] at parts
      exact ⟨missing, parts.symm⟩
    · rw [List.nil_append] at same
      rw [same, (allowed_overlong within plain beyond).1] at parts
      rw [same]
      refine List.IsPrefix.trans ⟨missing, parts.symm⟩ ?_
      rw [List.prefix_append_right_inj]
      exact (List.take_prefix _ _).trans (List.prefix_append _ _)
  · intro lines tail within last same
    obtain ⟨bytes, fits⟩ := allowed_short within last
    rw [← same] at bytes fits
    have running : s.reader.failed = false := by
      rw [← Bool.not_eq_true]
      intro failed
      rw [(kept.stopped failed).1] at fits
      cases fits
    have whole := (kept.running running).2.1
    refine ⟨running, whole, fun enough => ?_⟩
    have all := reached running
    rw [Nat.min_eq_left enough] at all
    have length := congrArg List.length whole
    rw [List.length_append] at length
    rw [← whole, List.eq_nil_of_length_eq_zero (by omega : s.left.length = 0), List.append_nil]
  · intro lines long rest within plain beyond same
    obtain ⟨bytes, exceeds⟩ := @allowed_overlong _ lines long rest within plain beyond
    rw [← same] at bytes exceeds
    refine ⟨⟨missing, by rw [← bytes, parts]⟩, ?_, ?_⟩
    · intro failed
      obtain ⟨_, lost, off, delivered⟩ := kept.stopped failed
      exact closedLines_prefix (bytes.symm.trans delivered) off
    · intro enough
      rw [← Bool.not_eq_false]
      intro running
      have all := reached running
      have most := congrArg List.length (bytes.symm.trans parts)
      have length := congrArg List.length same
      simp only [List.length_append, List.length_take] at most length
      rw [Nat.min_eq_left enough] at all
      omega
  · intro failed remaining inner left
    rw [BoundedLineReader.pollRead, if_pos failed]

/-- Of a line of three bytes after a line of one, with two bytes a line. -/
theorem frame_bound_lossless_overlong :
    [97, newlineByte] <+: (readAll 2 [97, newlineByte, 98, 98, 98]
      [(8, .ready 1), (8, .ready 3), (2, .ready 8), (8, .ready 1), (1, .ready 1)]).delivered := by
  have overlong := (frame_bound_lossless 2 [97, newlineByte, 98, 98, 98]
    [(8, .ready 1), (8, .ready 3), (2, .ready 8), (8, .ready 1), (1, .ready 1)]).2.2.1
    [[97]] [98, 98, 98] [] (by simp [Within, newlineByte]) (by simp [newlineByte]) rfl rfl
  exact overlong.2.1 (overlong.2.2 (by decide))

end Reads

end YHarness.Transport

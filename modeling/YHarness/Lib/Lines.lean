/-
# YHarness.Lib.Lines -- lines cut out of a stream that arrives in chunks

A buffer collects chunks and hands every line that is complete, without its newline, to a
consumer that keeps a state and may fail; it searches a newline only from where it has not
searched yet.  What the consumer has done in the end depends on the bytes alone, not on how
they were cut (`pushAll_eq`): it has consumed the lines of the whole stream, up to the first
that fails.
-/
import Mathlib.Data.List.TakeDrop

namespace YHarness.Lib

set_option autoImplicit false

def newlineByte : UInt8 := 10

/-- The complete lines of a stream, and what is left. -/
def splitLines : List UInt8 → List (List UInt8) × List UInt8
  | [] => ([], [])
  | byte :: rest =>
    if byte = newlineByte then ([] :: (splitLines rest).1, (splitLines rest).2)
    else match splitLines rest with
      | ([], tail) => ([], byte :: tail)
      | (line :: lines, tail) => ((byte :: line) :: lines, tail)

theorem splitLines_open {bytes : List UInt8} (noLine : newlineByte ∉ bytes) (rest : List UInt8) :
    splitLines (bytes ++ newlineByte :: rest) =
      (bytes :: (splitLines rest).1, (splitLines rest).2) := by
  induction bytes with
  | nil =>
    rw [List.nil_append, splitLines, if_pos rfl]
  | cons byte bytes ih =>
    rw [List.mem_cons, not_or] at noLine
    rw [List.cons_append, splitLines, if_neg (Ne.symm noLine.1), ih noLine.2]

theorem splitLines_none {bytes : List UInt8} (noLine : newlineByte ∉ bytes) :
    splitLines bytes = ([], bytes) := by
  induction bytes with
  | nil => rfl
  | cons byte bytes ih =>
    rw [List.mem_cons, not_or] at noLine
    rw [splitLines, if_neg (Ne.symm noLine.1), ih noLine.2]

/-- More bytes continue what was left. -/
theorem splitLines_append (first second : List UInt8) :
    splitLines (first ++ second) =
      ((splitLines first).1 ++ (splitLines ((splitLines first).2 ++ second)).1,
        (splitLines ((splitLines first).2 ++ second)).2) := by
  induction first with
  | nil => rfl
  | cons byte bytes ih =>
    rw [List.cons_append, splitLines, ih]
    conv => rhs; rw [splitLines]
    by_cases newline : byte = newlineByte
    · rw [if_pos newline, if_pos newline]
      rfl
    · rw [if_neg newline, if_neg newline]
      cases held : (splitLines bytes).1 with
      | nil =>
        rw [show splitLines bytes = ([], (splitLines bytes).2) from Prod.ext held rfl]
        rw [List.nil_append, List.nil_append, List.cons_append, splitLines, if_neg newline]
      | cons line lines =>
        rw [show splitLines bytes = (line :: lines, (splitLines bytes).2) from
          Prod.ext held rfl]
        rfl

section Buffers

variable {α σ ε : Type}

/-- One after the other, up to the first that fails. -/
def consumeAll (consume : α → σ → Except ε Unit × σ) : List α → σ → Except ε Unit × σ
  | [], s => (.ok (), s)
  | line :: lines, s =>
    match consume line s with
    | (.ok (), s) => consumeAll consume lines s
    | (.error e, s) => (.error e, s)

theorem consumeAll_append (consume : α → σ → Except ε Unit × σ) (first second : List α) (s : σ) :
    consumeAll consume (first ++ second) s =
      match consumeAll consume first s with
      | (.ok (), s) => consumeAll consume second s
      | (.error e, s) => (.error e, s) := by
  induction first generalizing s with
  | nil => rfl
  | cons line lines ih =>
    rw [List.cons_append, consumeAll, consumeAll]
    match consume line s with
    | (.ok (), s) => exact ih s
    | (.error e, s) => rfl

theorem consumeAll_concat (consume : α → σ → Except ε Unit × σ) (items : List α) (item : α) (s : σ) :
    consumeAll consume (items ++ [item]) s =
      match consumeAll consume items s with
      | (.ok (), s) => consume item s
      | (.error e, s) => (.error e, s) := by
  rw [consumeAll_append]
  match consumeAll consume items s with
  | (.error e, s) => rfl
  | (.ok (), s) =>
    dsimp only
    rw [consumeAll]
    match consume item s with
    | (.ok (), s) => rfl
    | (.error e, s) => rfl

variable (σ) in
/-- The bytes that are no line yet, how many of them were searched, and the consumer. -/
structure LineBuffer where
  pending : List UInt8
  scanned : Nat
  totalBytes : Nat
  inner : σ

/-- The loop of a push. -/
def drain (consume : List UInt8 → σ → Except ε Unit × σ) (pending : List UInt8) (scanned : Nat)
    (total : Nat) (s : σ) : Except ε Unit × LineBuffer σ :=
  match _found : (pending.drop scanned).findIdx? (· == newlineByte) with
  | none => (.ok (), ⟨pending, pending.length, total, s⟩)
  | some relative =>
    let newline := scanned + relative
    match consume (pending.take newline) s with
    | (.error e, s) => (.error e, ⟨pending.drop (newline + 1), 0, total, s⟩)
    | (.ok (), s) => drain consume (pending.drop (newline + 1)) 0 total s
termination_by pending.length
decreasing_by
  obtain ⟨inside, _⟩ := List.findIdx?_eq_some_iff_getElem.1 _found
  rw [List.length_drop] at inside
  rw [List.length_drop]
  omega

/-- `push`: a chunk arrives. -/
def LineBuffer.push (maximum : Nat) (exceeded : ε) (consume : List UInt8 → σ → Except ε Unit × σ)
    (chunk : List UInt8) (buffer : LineBuffer σ) : Except ε Unit × LineBuffer σ :=
  if maximum < buffer.totalBytes + chunk.length then
    (.error exceeded, { buffer with totalBytes := buffer.totalBytes + chunk.length })
  else
    drain consume (buffer.pending ++ chunk) buffer.scanned (buffer.totalBytes + chunk.length)
      buffer.inner

/-- The chunks one after the other, up to the first that fails. -/
def LineBuffer.pushAll (maximum : Nat) (exceeded : ε)
    (consume : List UInt8 → σ → Except ε Unit × σ) :
    List (List UInt8) → LineBuffer σ → Except ε Unit × LineBuffer σ
  | [], buffer => (.ok (), buffer)
  | chunk :: chunks, buffer =>
    match buffer.push maximum exceeded consume chunk with
    | (.ok (), buffer) => pushAll maximum exceeded consume chunks buffer
    | (.error e, buffer) => (.error e, buffer)

/-- What the consumer has done, and the bytes that are left if nothing failed. -/
def outcome (consumed : Except ε Unit × LineBuffer σ) :
    Except ε (List UInt8) × σ :=
  (consumed.1.map fun _ => consumed.2.pending, consumed.2.inner)

/-- What consuming the lines of a stream leaves. -/
def consumed (consume : List UInt8 → σ → Except ε Unit × σ) (bytes : List UInt8) (s : σ) :
    Except ε (List UInt8) × σ :=
  let done := consumeAll consume (splitLines bytes).1 s
  (done.1.map fun _ => (splitLines bytes).2, done.2)

/-- Between two chunks no newline is left, and no more was searched than there is. -/
structure LineBuffer.Searched (buffer : LineBuffer σ) : Prop where
  noLine : newlineByte ∉ buffer.pending
  inside : buffer.scanned ≤ buffer.pending.length

/-- The first newline cuts off the first line. -/
theorem cut_of_found {pending : List UInt8} {scanned relative : Nat}
    (searched : newlineByte ∉ pending.take scanned)
    (found : (pending.drop scanned).findIdx? (· == newlineByte) = some relative) :
    newlineByte ∉ pending.take (scanned + relative) ∧
      pending = pending.take (scanned + relative) ++
        newlineByte :: pending.drop (scanned + relative + 1) := by
  obtain ⟨inside, here, earlier⟩ := List.findIdx?_eq_some_iff_getElem.1 found
  rw [List.length_drop] at inside
  have inside' : scanned + relative < pending.length := by omega
  constructor
  · intro member
    rw [List.take_add, List.mem_append] at member
    rcases member with before | between
    · exact searched before
    · obtain ⟨i, small, same⟩ := List.mem_take_iff_getElem.1 between
      have missed := earlier i (by omega)
      rw [same] at missed
      exact missed rfl
  · rw [List.getElem_drop, beq_iff_eq] at here
    rw [← here, List.cons_getElem_drop_succ, List.take_append_drop]

theorem drain_eq (consume : List UInt8 → σ → Except ε Unit × σ) {pending : List UInt8}
    {scanned : Nat} (total : Nat) (s : σ) (searched : newlineByte ∉ pending.take scanned) :
    outcome (drain consume pending scanned total s) = consumed consume pending s ∧
      ∀ buffer, drain consume pending scanned total s = (.ok (), buffer) →
        buffer.Searched ∧ buffer.totalBytes = total := by
  induction size : pending.length using Nat.strongRecOn generalizing pending scanned s with
  | _ n ih =>
    rw [drain]
    split
    · rename_i none
      have noLine : newlineByte ∉ pending := by
        intro member
        rw [← List.take_append_drop scanned pending, List.mem_append] at member
        rcases member with earlier | later
        · exact searched earlier
        · simpa using List.findIdx?_eq_none_iff.1 none newlineByte later
      constructor
      · rw [consumed, splitLines_none noLine]
        rfl
      · rintro buffer ⟨⟩
        exact ⟨⟨noLine, Nat.le_refl _⟩, rfl⟩
    · rename_i relative found
      obtain ⟨noLine, cut⟩ := cut_of_found searched found
      have split := splitLines_open noLine (pending.drop (scanned + relative + 1))
      rw [← cut] at split
      have first : consumed consume pending s =
          match consume (pending.take (scanned + relative)) s with
          | (.ok (), s) => consumed consume (pending.drop (scanned + relative + 1)) s
          | (.error e, s) => (.error e, s) := by
        rw [consumed, split]
        dsimp only
        rw [consumeAll]
        match consume (pending.take (scanned + relative)) s with
        | (.ok (), s) => rfl
        | (.error e, s) => rfl
      rw [first]
      dsimp only
      match consume (pending.take (scanned + relative)) s with
      | (.error e, s) => exact ⟨rfl, nofun⟩
      | (.ok (), s) =>
        have shorter : (pending.drop (scanned + relative + 1)).length < n := by
          have whole := congrArg List.length cut
          rw [List.length_append, List.length_cons] at whole
          omega
        exact ih _ shorter s (by rw [List.take_zero]; exact List.not_mem_nil) rfl

theorem consumed_append (consume : List UInt8 → σ → Except ε Unit × σ)
    (first second : List UInt8) (s : σ) :
    consumed consume (first ++ second) s =
      match consumed consume first s with
      | (.ok tail, s) => consumed consume (tail ++ second) s
      | (.error e, s) => (.error e, s) := by
  unfold consumed
  rw [splitLines_append]
  dsimp only
  rw [consumeAll_append]
  match consumeAll consume (splitLines first).1 s with
  | (.ok (), s) => rfl
  | (.error e, s) => rfl

variable {buffer : LineBuffer σ} {maximum : Nat}

/-- **A chunk more** continues with the bytes that were left. -/
theorem push_eq (exceeded : ε) (consume : List UInt8 → σ → Except ε Unit × σ) {chunk : List UInt8}
    (searched : buffer.Searched) (short : buffer.totalBytes + chunk.length ≤ maximum) :
    outcome (buffer.push maximum exceeded consume chunk) =
        consumed consume (buffer.pending ++ chunk) buffer.inner ∧
      ∀ next, buffer.push maximum exceeded consume chunk = (.ok (), next) →
        next.Searched ∧ next.totalBytes = buffer.totalBytes + chunk.length := by
  unfold LineBuffer.push
  rw [if_neg (Nat.not_lt.2 short)]
  refine drain_eq consume _ _ ?_
  rw [List.take_append_of_le_length searched.inside]
  exact fun member => searched.noLine (List.mem_of_mem_take member)

theorem pushAll_of_searched (exceeded : ε) (consume : List UInt8 → σ → Except ε Unit × σ)
    (chunks : List (List UInt8)) (searched : buffer.Searched)
    (short : buffer.totalBytes + chunks.flatten.length ≤ maximum) :
    outcome (LineBuffer.pushAll maximum exceeded consume chunks buffer) =
      consumed consume (buffer.pending ++ chunks.flatten) buffer.inner := by
  induction chunks generalizing buffer with
  | nil =>
    rw [List.flatten_nil, List.append_nil, consumed, splitLines_none searched.noLine]
    rfl
  | cons chunk chunks ih =>
    rw [List.flatten_cons, List.length_append] at short
    have fits : buffer.totalBytes + chunk.length ≤ maximum := by omega
    obtain ⟨done, after⟩ := push_eq exceeded consume searched fits
    rw [List.flatten_cons, ← List.append_assoc, consumed_append, ← done,
      LineBuffer.pushAll]
    match pushed : buffer.push maximum exceeded consume chunk with
    | (.error e, next) => rfl
    | (.ok (), next) =>
      obtain ⟨searched, total⟩ := after next pushed
      exact ih searched (by omega)

/-- The chunks that arrive before a stream gets too long. -/
def arriving : Nat → List (List UInt8) → List (List UInt8)
  | _, [] => []
  | room, chunk :: chunks =>
    if chunk.length ≤ room then chunk :: arriving (room - chunk.length) chunks else []

theorem pushAll_of_exceeds (exceeded : ε) (consume : List UInt8 → σ → Except ε Unit × σ)
    {chunks : List (List UInt8)} (searched : buffer.Searched)
    (long : maximum < buffer.totalBytes + chunks.flatten.length)
    (fits : buffer.totalBytes ≤ maximum) :
    outcome (LineBuffer.pushAll maximum exceeded consume chunks buffer) =
      match consumed consume (buffer.pending ++
        (arriving (maximum - buffer.totalBytes) chunks).flatten) buffer.inner with
      | (.ok _, s) => (.error exceeded, s)
      | (.error e, s) => (.error e, s) := by
  induction chunks generalizing buffer with
  | nil =>
    rw [List.flatten_nil, List.length_nil] at long
    omega
  | cons chunk chunks ih =>
    rw [LineBuffer.pushAll, arriving]
    by_cases room : buffer.totalBytes + chunk.length ≤ maximum
    · obtain ⟨done, after⟩ := push_eq exceeded consume searched room
      rw [List.flatten_cons, List.length_append] at long
      rw [if_pos (by omega), List.flatten_cons, ← List.append_assoc, consumed_append, ← done]
      match pushed : buffer.push maximum exceeded consume chunk with
      | (.error e, next) => rfl
      | (.ok (), next) =>
        obtain ⟨searched, total⟩ := after next pushed
        have same := ih searched (by omega) (by omega)
        rw [total, Nat.sub_add_eq] at same
        exact same
    · rw [if_neg (by omega), LineBuffer.push, if_pos (Nat.lt_of_not_le room), List.flatten_nil,
        List.append_nil, consumed, splitLines_none searched.noLine]
      rfl

/-- **Chunks do not matter.** -/
theorem pushAll_eq (exceeded : ε) (consume : List UInt8 → σ → Except ε Unit × σ)
    (chunks : List (List UInt8)) (s : σ) (short : chunks.flatten.length ≤ maximum) :
    outcome (LineBuffer.pushAll maximum exceeded consume chunks ⟨[], 0, 0, s⟩) =
      consumed consume chunks.flatten s := by
  refine pushAll_of_searched exceeded consume chunks ⟨List.not_mem_nil, Nat.le_refl _⟩ ?_
  rw [Nat.zero_add]
  exact short

end Buffers

end YHarness.Lib

/-
# YHarness.Lib.CommandLedger -- aggregates that commands build, each applied once

A store keeps one record under each key.  A creation begins a record, a command
extends its history by one entry, and a command that is already part of the history
is recognized.  `Aggregates` are the operations of one kind of record and
`Aggregates.call` is what a store of them is for.  `Laws` say what the operations
keep; `exactly_once` is then about every run of calls: the records under a key grow
by one entry at a time, and a call that comes again is answered with the record as
it is and writes nothing.

A machine whose calls fail without a trace is run by `attempts`; two machines that
answer alike, and stay related, do so in every run (`attempts_alike`).
-/
import Mathlib.Data.List.Nodup
import YHarness.Lib.Check
import YHarness.Lib.Revisions

namespace YHarness.Lib

set_option autoImplicit false

/-! ## Machines -/

section Machines

variable {S S' κ α ε : Type}

/-- The answer and the state after a call: one that fails leaves the state. -/
def attempt (call : S → κ → Except ε (α × S)) (s : S) (c : κ) : Except ε α × S :=
  match call s c with
  | .ok (answer, next) => (.ok answer, next)
  | .error e => (.error e, s)

/-- The answers and the state after calls in the order in which they ran. -/
def attempts (call : S → κ → Except ε (α × S)) (s : S) : List κ → List (Except ε α) × S
  | [] => ([], s)
  | c :: rest =>
    let after := attempts call (attempt call s c).2 rest
    ((attempt call s c).1 :: after.1, after.2)

theorem attempts_append (call : S → κ → Except ε (α × S)) (s : S) (left right : List κ) :
    attempts call s (left ++ right) =
      ((attempts call s left).1 ++ (attempts call (attempts call s left).2 right).1,
        (attempts call (attempts call s left).2 right).2) := by
  induction left generalizing s with
  | nil => rfl
  | cons c rest ih =>
    show _ = ((attempt call s c).1 :: _, _)
    rw [List.cons_append, attempts, ih]
    rfl

theorem attempts_concat (call : S → κ → Except ε (α × S)) (s : S) (calls : List κ) (c : κ) :
    (attempts call s (calls ++ [c])).2 = (attempt call (attempts call s calls).2 c).2 := by
  rw [attempts_append]
  rfl

variable {call : S → κ → Except ε (α × S)} {call' : S' → κ → Except ε (α × S')}
  {related : S → S' → Prop}

variable (related) in
/-- One call of two related machines. -/
theorem attempt_alike {s : S} {s' : S'} {c : κ} (before : related s s')
    (alike : Alike (fun left right => left.1 = right.1 ∧ related left.2 right.2)
      (call s c) (call' s' c)) :
    (attempt call s c).1 = (attempt call' s' c).1 ∧
      related (attempt call s c).2 (attempt call' s' c).2 := by
  unfold attempt
  generalize call s c = left at alike
  generalize call' s' c = right at alike
  cases alike with
  | ok same => exact ⟨congrArg Except.ok same.1, same.2⟩
  | error e => exact ⟨rfl, before⟩

variable (related) in
/-- **Machines that answer alike do so in every run.** -/
theorem attempts_alike
    (alike : ∀ s s' c, related s s' →
      Alike (fun left right => left.1 = right.1 ∧ related left.2 right.2) (call s c) (call' s' c))
    {s : S} {s' : S'} (before : related s s') (calls : List κ) :
    (attempts call s calls).1 = (attempts call' s' calls).1 ∧
      related (attempts call s calls).2 (attempts call' s' calls).2 := by
  induction calls generalizing s s' with
  | nil => exact ⟨rfl, before⟩
  | cons c rest ih =>
    obtain ⟨answer, after⟩ := attempt_alike related before (alike s s' c before)
    obtain ⟨answers, last⟩ := ih after
    exact ⟨congrArg₂ List.cons answer answers, last⟩

end Machines

/-! ## Aggregates -/

/-- A call on a store of aggregates, with identities `I`, callers `C`, requests `Q` and
commands `M`. -/
inductive LedgerCall (I C Q M : Type) where
  | create (id : I) (request : Q) (atMs : UInt64) (caller : C)
  | load (id : I) (caller : C)
  | apply (id : I) (expected : UInt64) (command : M) (atMs : UInt64) (caller : C)

inductive LedgerAnswer (P : Type) where
  | created (record : P)
  | loaded (record : Option P)
  | applied (record : P) (duplicate : Bool)
deriving DecidableEq

/-- The calls of a store that has the three operations; `read` is what the answer to a command
says. -/
def LedgerCall.on {I C Q M P R S ε : Type} (create : I → Q → UInt64 → C → Except ε (P × S))
    (load : I → C → Except ε (Option P))
    (apply : I → UInt64 → M → UInt64 → C → Except ε (R × S)) (read : R → P × Bool) (store : S) :
    LedgerCall I C Q M → Except ε (LedgerAnswer P × S)
  | .create id request atMs caller => do
    let created ← create id request atMs caller
    .ok (.created created.1, created.2)
  | .load id caller => do
    let found ← load id caller
    .ok (.loaded found, store)
  | .apply id expected command atMs caller => do
    let applied ← apply id expected command atMs caller
    .ok (.applied (read applied.1).1 (read applied.1).2, applied.2)

/-- The operations of one kind of record `P`, kept under keys `K`.  Its history has
entries `H`, each with the name `N` of the request or command it records. -/
structure Aggregates (I C Q M K P H N ε : Type) where
  key : I → C → K
  access : I → C → Except ε Unit
  start : I → Q → UInt64 → C → Except ε P
  created : P → Q → C → Except ε Bool
  differs : I → ε
  missing : I → ε
  checkExpected : UInt64 → Except ε Unit
  recognizes : P → M → C → Except ε Bool
  revision : P → UInt64
  conflict : I → UInt64 → UInt64 → ε
  advance : I → P → M → UInt64 → C → Except ε (P × Bool)
  history : P → List H
  name : H → N
  commandName : M → N

namespace Aggregates

variable {I C Q M K P H N ε : Type} [DecidableEq K]

/-- What a call answers and the records it leaves, with room for some times only. -/
def call (A : Aggregates I C Q M K P H N ε) (room : UInt64 → Except ε Unit)
    (held : K → Option P) : LedgerCall I C Q M → Except ε (LedgerAnswer P × (K → Option P))
  | .create id request atMs caller => do
    A.access id caller
    match held (A.key id caller) with
    | some existing => do
      let same ← A.created existing request caller
      if same then .ok (.created existing, held) else .error (A.differs id)
    | none => do
      let record ← A.start id request atMs caller
      room atMs
      .ok (.created record, Function.update held (A.key id caller) (some record))
  | .load id caller => do
    A.access id caller
    .ok (.loaded (held (A.key id caller)), held)
  | .apply id expected command atMs caller => do
    A.access id caller
    A.checkExpected expected
    let current ← orError (A.missing id) (held (A.key id caller))
    let recognized ← A.recognizes current command caller
    if recognized then .ok (.applied current true, held)
    else do
      rejectIf (A.revision current != expected) (A.conflict id expected (A.revision current))
      let (next, duplicate) ← A.advance id current command atMs caller
      .ok (.applied next duplicate, Function.update held (A.key id caller) (some next))

/-- The key that a call is about. -/
def keyOf (A : Aggregates I C Q M K P H N ε) : LedgerCall I C Q M → K
  | .create id _ _ caller => A.key id caller
  | .load id caller => A.key id caller
  | .apply id _ _ _ caller => A.key id caller

/-- The records after calls. -/
def heldAfter (A : Aggregates I C Q M K P H N ε) (room : UInt64 → Except ε Unit)
    (calls : List (LedgerCall I C Q M)) : K → Option P :=
  (attempts (A.call room) (fun _ => none) calls).2

/-- The answer to a call after others. -/
def answerAfter (A : Aggregates I C Q M K P H N ε) (room : UInt64 → Except ε Unit)
    (calls : List (LedgerCall I C Q M)) (c : LedgerCall I C Q M) : Except ε (LedgerAnswer P) :=
  (attempt (A.call room) (A.heldAfter room calls) c).1

/-- A record with one entry more. -/
def Extends (A : Aggregates I C Q M K P H N ε) (before after : P) (entry : H) : Prop :=
  A.history after = A.history before ++ [entry]

/-- What the operations keep: `good` is the invariant of a record under its key, `wrote`
and `began` say that a command, or the request, is part of its history, a caller may
repeat the call of one that is `like` it, and `apart` that a request can be told from
the one that began a record. -/
structure Laws (A : Aggregates I C Q M K P H N ε) (good : K → P → Prop)
    (wrote : P → M → C → Prop) (began : P → Q → C → Prop) (like : C → C → Prop)
    (apart : P → Q → C → Prop) : Prop where
  numbered : ∀ {k p}, good k p → (A.revision p).toNat = (A.history p).length
  distinct : ∀ {k p}, good k p → ((A.history p).map A.name).Nodup
  start : ∀ {id request atMs caller p}, A.access id caller = .ok () →
    A.start id request atMs caller = .ok p →
    good (A.key id caller) p ∧ began p request caller ∧ (A.history p).length = 1
  advance : ∀ {id p command atMs caller next duplicate}, good (A.key id caller) p →
    A.recognizes p command caller = .ok false →
    A.advance id p command atMs caller = .ok (next, duplicate) →
    duplicate = false ∧ good (A.key id caller) next ∧ wrote next command caller ∧
      ∃ entry, A.Extends p next entry ∧ A.name entry = A.commandName command
  wroteLater : ∀ {k p next entry command caller}, good k p → A.Extends p next entry →
    wrote p command caller → wrote next command caller
  beganLater : ∀ {k p next entry request caller}, good k p → A.Extends p next entry →
    began p request caller → began next request caller
  wroteOf : ∀ {p command caller}, A.recognizes p command caller = .ok true →
    wrote p command caller
  recognized : ∀ {id p command caller other}, good (A.key id other) p → wrote p command caller →
    like caller other → A.access id other = .ok () → A.recognizes p command other = .ok true
  recreated : ∀ {id p request caller other}, good (A.key id other) p → began p request caller →
    like caller other → A.access id other = .ok () → A.created p request other = .ok true
  beganOf : ∀ {k p request caller}, good k p → apart p request caller →
    A.created p request caller = .ok true → began p request caller

section Runs

variable {A : Aggregates I C Q M K P H N ε} {good : K → P → Prop} {wrote : P → M → C → Prop}
  {began : P → Q → C → Prop} {like : C → C → Prop} {apart : P → Q → C → Prop}
  {room : UInt64 → Except ε Unit}

/-- What a call does to the record under its key. -/
inductive Changes (A : Aggregates I C Q M K P H N ε) (began : P → Q → C → Prop)
    (wrote : P → M → C → Prop) (before : Option P) :
    LedgerCall I C Q M → Except ε (LedgerAnswer P) → Option P → Prop
  | nothing {c : LedgerCall I C Q M} {answer : Except ε (LedgerAnswer P)} :
      Changes A began wrote before c answer before
  | began {id : I} {request : Q} {atMs : UInt64} {caller : C} {p : P} (free : before = none)
      (one : (A.history p).length = 1) (records : began p request caller) :
      Changes A began wrote before (.create id request atMs caller) (.ok (.created p)) (some p)
  | extended {id : I} {command : M} {atMs : UInt64} {caller : C} {current next : P} {entry : H}
      (found : before = some current) (extends_ : A.Extends current next entry)
      (named : A.name entry = A.commandName command) (records : wrote next command caller) :
      Changes A began wrote before (.apply id (A.revision current) command atMs caller)
        (.ok (.applied next false)) (some next)

variable (room) in
/-- **One call**: it changes at most the record under its key, by at most one entry. -/
theorem Laws.step (laws : A.Laws good wrote began like apart) {held : K → Option P}
    (sound : ∀ k p, held k = some p → good k p) (c : LedgerCall I C Q M) :
    (∀ k p, (attempt (A.call room) held c).2 k = some p → good k p) ∧
      (∀ k, k ≠ A.keyOf c → (attempt (A.call room) held c).2 k = held k) ∧
      Changes A began wrote (held (A.keyOf c)) c (attempt (A.call room) held c).1
        ((attempt (A.call room) held c).2 (A.keyOf c)) := by
  unfold attempt
  cases called : A.call room held c with
  | error e => exact ⟨sound, fun _ _ => rfl, .nothing⟩
  | ok result =>
    cases c with
    | create id request atMs caller =>
      obtain ⟨access, called⟩ := seq_eq_ok.1 called
      cases found : held (A.key id caller) with
      | some existing =>
        rw [found] at called
        obtain ⟨same, _, called⟩ := bind_eq_ok.1 called
        cases same with
        | false => cases called
        | true =>
          cases called
          exact ⟨sound, fun _ _ => rfl, .nothing⟩
      | none =>
        rw [found] at called
        obtain ⟨record, started, called⟩ := bind_eq_ok.1 called
        replace called := rest_ok called
        cases called
        obtain ⟨isGood, records, one⟩ := laws.start access started
        refine ⟨forall_update sound isGood, fun k other => Function.update_of_ne other .., ?_⟩
        show Changes A began wrote (held (A.key id caller)) _ _
          (Function.update held (A.key id caller) (some record) (A.key id caller))
        rw [Function.update_self]
        exact .began found one records
    | load id caller =>
      replace called := rest_ok called
      cases called
      exact ⟨sound, fun _ _ => rfl, .nothing⟩
    | apply id expected command atMs caller =>
      replace called := rest_ok (rest_ok called)
      obtain ⟨current, found, called⟩ := bind_eq_ok.1 called
      obtain ⟨recognized, recognizes, called⟩ := bind_eq_ok.1 called
      rw [orError_eq_ok] at found
      cases recognized with
      | true =>
        cases called
        exact ⟨sound, fun _ _ => rfl, .nothing⟩
      | false =>
        obtain ⟨fence, called⟩ := seq_eq_ok.1 called
        obtain ⟨⟨next, duplicate⟩, advanced, called⟩ := bind_eq_ok.1 called
        cases called
        rw [rejectIf_bne] at fence
        obtain ⟨rfl, isGood, records, entry, longer, named⟩ :=
          laws.advance (sound _ _ found) recognizes advanced
        refine ⟨forall_update sound isGood, fun k other => Function.update_of_ne other .., ?_⟩
        show Changes A began wrote (held (A.key id caller)) _ _
          (Function.update held (A.key id caller) (some next) (A.key id caller))
        rw [Function.update_self, ← fence]
        exact .extended found longer named records

/-! ## Runs -/

theorem heldAfter_concat (A : Aggregates I C Q M K P H N ε) (room : UInt64 → Except ε Unit)
    (calls : List (LedgerCall I C Q M)) (c : LedgerCall I C Q M) :
    A.heldAfter room (calls ++ [c]) = (attempt (A.call room) (A.heldAfter room calls) c).2 :=
  attempts_concat ..

variable (room) in
theorem Laws.good_after (laws : A.Laws good wrote began like apart)
    (calls : List (LedgerCall I C Q M)) :
    ∀ k p, A.heldAfter room calls k = some p → good k p := by
  induction calls using List.reverseRecOn with
  | nil => exact nofun
  | append_singleton calls c ih =>
    rw [heldAfter_concat]
    exact (laws.step room ih c).1

variable {c : LedgerCall I C Q M} {calls : List (LedgerCall I C Q M)} {held : K → Option P}

/-- A call that succeeds has access. -/
theorem call_access {result : LedgerAnswer P × (K → Option P)}
    (called : A.call room held c = .ok result) :
    ∃ id caller, A.keyOf c = A.key id caller ∧ A.access id caller = .ok () := by
  cases c with
  | create id request atMs caller => exact ⟨id, caller, rfl, (seq_eq_ok.1 called).1⟩
  | load id caller => exact ⟨id, caller, rfl, (seq_eq_ok.1 called).1⟩
  | apply id expected command atMs caller => exact ⟨id, caller, rfl, (seq_eq_ok.1 called).1⟩

/-- The key of a record is one that a caller had access to. -/
theorem Laws.accessed (laws : A.Laws good wrote began like apart)
    (calls : List (LedgerCall I C Q M)) {k : K} {p : P} (found : A.heldAfter room calls k = some p) :
    ∃ id caller, k = A.key id caller ∧ A.access id caller = .ok () := by
  induction calls using List.reverseRecOn generalizing p with
  | nil => cases found
  | append_singleton calls c ih =>
    have sound := laws.good_after room calls
    rw [heldAfter_concat] at found
    by_cases about : k = A.keyOf c
    · subst about
      unfold attempt at found
      cases called : A.call room (A.heldAfter room calls) c with
      | error e =>
        rw [called] at found
        exact ih found
      | ok result => exact call_access called
    · rw [(laws.step room sound c).2.1 k about] at found
      exact ih found

/-- A store answers every run of calls as the aggregates do, and shows their records. -/
structure Implements {S : Type} (A : Aggregates I C Q M K P H N ε) (room : UInt64 → Except ε Unit)
    (call : S → LedgerCall I C Q M → Except ε (LedgerAnswer P × S)) (empty : S)
    (shows : (K → Option P) → S → Prop) : Prop where
  answers : ∀ calls, (attempts call empty calls).1 = (attempts (A.call room) (fun _ => none) calls).1
  records : ∀ calls, shows (A.heldAfter room calls) (attempts call empty calls).2

/-- **One call is enough**: a store that answers each call as the aggregates do, when
they keep their invariant. -/
theorem Laws.implements {S : Type} (laws : A.Laws good wrote began like apart)
    {call : S → LedgerCall I C Q M → Except ε (LedgerAnswer P × S)} {empty : S}
    {shows : (K → Option P) → S → Prop} (begins : shows (fun _ => none) empty)
    (alike : ∀ held s c, (∀ k p, held k = some p → good k p) → shows held s →
      Alike (fun left right => left.1 = right.1 ∧ shows left.2 right.2)
        (A.call room held c) (call s c)) : A.Implements room call empty shows := by
  let related held s := (∀ k p, held k = some p → good k p) ∧ shows held s
  have first : related (fun _ => none) empty := ⟨nofun, begins⟩
  have each : ∀ held s c, related held s →
      Alike (fun left right => left.1 = right.1 ∧ related left.2 right.2)
        (A.call room held c) (call s c) := ?_
  · have run := attempts_alike related each first
    exact ⟨fun calls => (run calls).1.symm, fun calls => (run calls).2.2⟩
  · rintro held s c ⟨sound, shown⟩
    have next : ∀ result, A.call room held c = .ok result →
        ∀ k p, result.2 k = some p → good k p := by
      intro result called
      have kept := (laws.step room sound c).1
      rw [attempt, called] at kept
      exact kept
    refine ((alike held s c sound shown).knowing next).mono ?_
    rintro left right ⟨⟨answer, shown⟩, sound⟩
    exact ⟨answer, sound, shown⟩

variable (room) in
/-- What extensions keep stays true of the record under a key. -/
theorem Laws.stays (laws : A.Laws good wrote began like apart) {holds : P → Prop}
    (kept : ∀ k p next entry, good k p → A.Extends p next entry → holds p → holds next)
    (calls later : List (LedgerCall I C Q M)) {k : K} {p : P}
    (found : A.heldAfter room calls k = some p) (here : holds p) :
    ∃ current, A.heldAfter room (calls ++ later) k = some current ∧ holds current := by
  induction later using List.reverseRecOn with
  | nil => exact ⟨p, by rw [List.append_nil, found], here⟩
  | append_singleton later c ih =>
    obtain ⟨current, found, here⟩ := ih
    have sound := laws.good_after room (calls ++ later)
    obtain ⟨_, others, changes⟩ := laws.step room sound c
    rw [← List.append_assoc, heldAfter_concat]
    by_cases about : k = A.keyOf c
    · subst about
      generalize (attempt (A.call room) (A.heldAfter room (calls ++ later)) c).2 (A.keyOf c) =
        after at changes
      generalize (attempt (A.call room) (A.heldAfter room (calls ++ later)) c).1 = answer
        at changes
      rw [found] at changes
      cases changes with
      | nothing => exact ⟨current, rfl, here⟩
      | began free => cases free
      | extended same longer =>
        cases same
        exact ⟨_, rfl, kept _ _ _ _ (sound _ _ found) longer here⟩
    · exact ⟨current, by rw [others k about, found], here⟩

/-- The answer to a command is a record with the command in its history. -/
theorem Laws.applied (laws : A.Laws good wrote began like apart)
    {calls : List (LedgerCall I C Q M)} {id : I} {expected : UInt64} {command : M} {atMs : UInt64}
    {caller : C} {p : P} {duplicate : Bool}
    (answered : A.answerAfter room calls (.apply id expected command atMs caller) =
      .ok (.applied p duplicate)) :
    A.heldAfter room (calls ++ [.apply id expected command atMs caller]) (A.key id caller) =
      some p ∧ wrote p command caller := by
  have sound := laws.good_after room calls
  rw [heldAfter_concat]
  unfold answerAfter at answered
  unfold attempt at answered ⊢
  cases called : A.call room (A.heldAfter room calls) (.apply id expected command atMs caller) with
  | error e =>
    rw [called] at answered
    cases answered
  | ok result =>
    obtain ⟨answer, after⟩ := result
    rw [called] at answered
    obtain rfl : answer = .applied p duplicate := Except.ok.inj answered
    replace called := rest_ok (rest_ok called)
    obtain ⟨current, found, called⟩ := bind_eq_ok.1 called
    obtain ⟨recognized, recognizes, called⟩ := bind_eq_ok.1 called
    rw [orError_eq_ok] at found
    cases recognized with
    | true =>
      cases called
      exact ⟨found, laws.wroteOf recognizes⟩
    | false =>
      replace called := rest_ok called
      obtain ⟨⟨next, duplicate⟩, advanced, called⟩ := bind_eq_ok.1 called
      cases called
      obtain ⟨_, _, records, _⟩ := laws.advance (sound _ _ found) recognizes advanced
      exact ⟨Function.update_self .., records⟩

/-- The answer to a creation is a record that the request began, if it was free or can be
told apart. -/
theorem Laws.created_free (laws : A.Laws good wrote began like apart) {id : I} {request : Q}
    {atMs : UInt64} {caller : C} {p : P} (free : A.heldAfter room calls (A.key id caller) = none)
    (answered : A.answerAfter room calls (.create id request atMs caller) = .ok (.created p)) :
    A.heldAfter room (calls ++ [.create id request atMs caller]) (A.key id caller) = some p ∧
      began p request caller := by
  rw [heldAfter_concat]
  unfold answerAfter at answered
  unfold attempt at answered ⊢
  cases called : A.call room (A.heldAfter room calls) (.create id request atMs caller) with
  | error e =>
    rw [called] at answered
    cases answered
  | ok result =>
    obtain ⟨answer, after⟩ := result
    rw [called] at answered
    obtain rfl : answer = .created p := Except.ok.inj answered
    obtain ⟨access, called⟩ := seq_eq_ok.1 called
    rw [free] at called
    obtain ⟨record, started, called⟩ := bind_eq_ok.1 called
    replace called := rest_ok called
    cases called
    exact ⟨Function.update_self .., (laws.start access started).2.1⟩

/-- A call that leaves the records, with its answer. -/
structure Answers (A : Aggregates I C Q M K P H N ε) (room : UInt64 → Except ε Unit)
    (calls : List (LedgerCall I C Q M)) (c : LedgerCall I C Q M)
    (answer : Except ε (LedgerAnswer P)) : Prop where
  answer : A.answerAfter room calls c = answer
  unchanged : A.heldAfter room (calls ++ [c]) = A.heldAfter room calls

theorem Answers.of_call {answer : LedgerAnswer P}
    (called : A.call room (A.heldAfter room calls) c = .ok (answer, A.heldAfter room calls)) :
    A.Answers room calls c (.ok answer) := by
  constructor
  · rw [answerAfter, attempt, called]
  · rw [heldAfter_concat, attempt, called]

theorem Answers.of_error {e : ε} (answered : A.answerAfter room calls c = .error e) :
    A.Answers room calls c (.error e) := by
  refine ⟨answered, ?_⟩
  rw [heldAfter_concat]
  unfold answerAfter attempt at answered
  unfold attempt
  cases called : A.call room (A.heldAfter room calls) c with
  | error e => rfl
  | ok result =>
    rw [called] at answered
    cases answered

variable (room) in
/-- The answer to a call is a matter of the record under its key. -/
theorem attempt_local {held held' : K → Option P} (same : held (A.keyOf c) = held' (A.keyOf c)) :
    (attempt (A.call room) held c).1 = (attempt (A.call room) held' c).1 := by
  suffices alike : Alike (fun left right => left.1 = right.1 ∧ True) (A.call room held c)
      (A.call room held' c) from (attempt_alike (fun _ _ => True) trivial alike).1
  cases c with
  | create id request atMs caller =>
    refine .shared _ fun _ _ => ?_
    rw [show held (A.key id caller) = held' (A.key id caller) from same]
    cases held' (A.key id caller) with
    | some existing =>
      refine .shared _ fun same _ => ?_
      cases same with
      | true => exact .ok ⟨rfl, trivial⟩
      | false => exact .error _
    | none => exact .shared _ fun _ _ => .shared _ fun _ _ => .ok ⟨rfl, trivial⟩
  | load id caller =>
    refine .shared _ fun _ _ => .ok ⟨?_, trivial⟩
    exact congrArg LedgerAnswer.loaded same
  | apply id expected command atMs caller =>
    refine .shared _ fun _ _ => .shared _ fun _ _ => ?_
    rw [show held (A.key id caller) = held' (A.key id caller) from same]
    refine .shared _ fun current _ => .shared _ fun recognized _ => ?_
    cases recognized with
    | true => exact .ok ⟨rfl, trivial⟩
    | false => exact .shared _ fun _ _ => .shared _ fun _ _ => .ok ⟨rfl, trivial⟩

/-- **Exactly once.**  In every run of calls:
a record counts its history, in which no name is twice;
a call changes at most the record under its key, which it begins or extends by one
entry, and that only when it succeeds, and its answer is a matter of that record;
a command that was answered is, when it comes again with any expected revision,
answered as a duplicate with the record as it is;
and so is a request that began a record, while one that did not is refused. -/
structure ExactlyOnce (A : Aggregates I C Q M K P H N ε) (wrote : P → M → C → Prop)
    (began : P → Q → C → Prop) (like : C → C → Prop) (apart : P → Q → C → Prop)
    (room : UInt64 → Except ε Unit) : Prop where
  numbered : ∀ calls k p, A.heldAfter room calls k = some p →
    (A.revision p).toNat = (A.history p).length ∧ ((A.history p).map A.name).Nodup
  others : ∀ calls c k, k ≠ A.keyOf c →
    A.heldAfter room (calls ++ [c]) k = A.heldAfter room calls k
  changes : ∀ calls c, Changes A began wrote (A.heldAfter room calls (A.keyOf c)) c
    (A.answerAfter room calls c) (A.heldAfter room (calls ++ [c]) (A.keyOf c))
  isolated : ∀ calls calls' c,
    A.heldAfter room calls (A.keyOf c) = A.heldAfter room calls' (A.keyOf c) →
      A.answerAfter room calls c = A.answerAfter room calls' c
  loaded : ∀ calls id caller, A.access id caller = .ok () →
    A.Answers room calls (.load id caller) (.ok (.loaded (A.heldAfter room calls (A.key id caller))))
  failed : ∀ calls c e, A.answerAfter room calls c = .error e → A.Answers room calls c (.error e)
  retried : ∀ calls later id expected command atMs caller p duplicate,
    A.answerAfter room calls (.apply id expected command atMs caller) =
      .ok (.applied p duplicate) →
    ∀ other expected' atMs', like caller other → A.access id other = .ok () →
      A.key id other = A.key id caller → A.checkExpected expected' = .ok () →
      ∃ current, A.heldAfter room (calls ++ .apply id expected command atMs caller :: later)
          (A.key id caller) = some current ∧
        A.Answers room (calls ++ .apply id expected command atMs caller :: later)
          (.apply id expected' command atMs' other) (.ok (.applied current true))
  recreated : ∀ calls later id request atMs caller p,
    A.heldAfter room calls (A.key id caller) = none →
    A.answerAfter room calls (.create id request atMs caller) = .ok (.created p) →
    ∀ other atMs', like caller other → A.access id other = .ok () →
      A.key id other = A.key id caller →
      ∃ current, A.heldAfter room (calls ++ .create id request atMs caller :: later)
          (A.key id caller) = some current ∧
        A.Answers room (calls ++ .create id request atMs caller :: later)
          (.create id request atMs' other) (.ok (.created current))
  refused : ∀ calls id request atMs caller p,
    A.heldAfter room calls (A.key id caller) = some p → ¬ began p request caller →
    apart p request caller →
      ∃ e, A.Answers room calls (.create id request atMs caller) (.error e)

theorem Laws.exactly_once (laws : A.Laws good wrote began like apart)
    (room : UInt64 → Except ε Unit) : A.ExactlyOnce wrote began like apart room where
  numbered calls k p found :=
    ⟨laws.numbered (laws.good_after room calls k p found),
      laws.distinct (laws.good_after room calls k p found)⟩
  others calls c k other := by
    rw [heldAfter_concat]
    exact (laws.step room (laws.good_after room calls) c).2.1 k other
  changes calls c := by
    rw [heldAfter_concat]
    exact (laws.step room (laws.good_after room calls) c).2.2
  isolated calls calls' c same := attempt_local room same
  loaded calls id caller access := .of_call (seq_eq_ok.2 ⟨access, rfl⟩)
  failed calls c e answered := .of_error answered
  retried := by
    intro calls later id expected command atMs caller p duplicate answered other expected' atMs'
      alike access key checked
    obtain ⟨found, records⟩ := laws.applied answered
    have stays := laws.stays room
      (fun k p next entry isGood longer => laws.wroteLater isGood longer) _ later found records
    rw [List.append_assoc, List.singleton_append] at stays
    obtain ⟨current, found, records⟩ := stays
    refine ⟨current, found, .of_call ?_⟩
    have isGood := laws.good_after room _ _ _ found
    rw [← key] at isGood found
    refine seq_eq_ok.2 ⟨access, seq_eq_ok.2 ⟨checked, bind_eq_ok.2 ⟨current, ?_, ?_⟩⟩⟩
    · rw [orError_eq_ok]
      exact found
    · exact bind_eq_ok.2 ⟨true, laws.recognized isGood records alike access, rfl⟩
  recreated := by
    intro calls later id request atMs caller p free answered other atMs' alike access key
    obtain ⟨found, records⟩ := laws.created_free free answered
    have stays := laws.stays room
      (fun k p next entry isGood longer => laws.beganLater isGood longer) _ later found records
    rw [List.append_assoc, List.singleton_append] at stays
    obtain ⟨current, found, records⟩ := stays
    refine ⟨current, found, .of_call ?_⟩
    have isGood := laws.good_after room _ _ _ found
    rw [← key] at isGood found
    refine seq_eq_ok.2 ⟨access, ?_⟩
    rw [show A.heldAfter room _ (A.key id other) = some current from found]
    exact bind_eq_ok.2 ⟨true, laws.recreated isGood records alike access, rfl⟩
  refused := by
    intro calls id request atMs caller p found another told
    have isGood := laws.good_after room _ _ _ found
    cases called : A.call room (A.heldAfter room calls) (.create id request atMs caller) with
    | error e => exact ⟨e, .of_error (by rw [answerAfter, attempt, called])⟩
    | ok result =>
      exfalso
      replace called := rest_ok called
      rw [found] at called
      obtain ⟨same, recognized, called⟩ := bind_eq_ok.1 called
      cases same with
      | false => cases called
      | true => exact another (laws.beganOf isGood told recognized)

/-! ## Room -/

/-- Room for all times. -/
def anyTime : UInt64 → Except ε Unit :=
  fun _ => .ok ()

/-- A call does not begin a record at a time for which there is no room. -/
def Roomy (A : Aggregates I C Q M K P H N ε) (room : UInt64 → Except ε Unit) (held : K → Option P)
    (c : LedgerCall I C Q M) : Prop :=
  ∀ id request atMs caller p, c = .create id request atMs caller →
    A.access id caller = .ok () → held (A.key id caller) = none →
      A.start id request atMs caller = .ok p → room atMs = .ok ()

/-- Room matters to no other call. -/
theorem call_roomy (roomy : A.Roomy room held c) :
    A.call room held c = A.call anyTime held c := by
  cases c with
  | load id caller => rfl
  | apply id expected command atMs caller => rfl
  | create id request atMs caller =>
    unfold call
    dsimp only
    cases access : A.access id caller with
    | error e => rfl
    | ok _ =>
      cases found : held (A.key id caller) with
      | some existing => rfl
      | none =>
        cases started : A.start id request atMs caller with
        | error e => rfl
        | ok p =>
          show (do room atMs; _) = _
          rw [roomy id request atMs caller p rfl access found started]
          rfl

/-- A call that needs room is answered where there is some. -/
theorem roomy_of_answer
    (same : (attempt (A.call anyTime) held c).1 = (attempt (A.call room) held c).1) :
    A.Roomy room held c := by
  rintro id request atMs caller p rfl access found started
  cases full : room atMs with
  | ok _ => rfl
  | error e =>
    exfalso
    unfold attempt call at same
    dsimp only at same
    simp only [access, found, started, full, anyTime, ok_bind, error_bind] at same
    cases same

/-- **Room and no room**: the answers to a run agree exactly when every call has the
room that it needs, and then so do the records. -/
theorem answers_roomy (A : Aggregates I C Q M K P H N ε) (room : UInt64 → Except ε Unit)
    (calls : List (LedgerCall I C Q M)) :
    ((attempts (A.call anyTime) (fun _ => none) calls).1 =
        (attempts (A.call room) (fun _ => none) calls).1 ↔
      ∀ before c after, calls = before ++ c :: after →
        A.Roomy room (A.heldAfter anyTime before) c) ∧
      ((∀ before c after, calls = before ++ c :: after →
        A.Roomy room (A.heldAfter anyTime before) c) →
        A.heldAfter anyTime calls = A.heldAfter room calls) := by
  induction calls using List.reverseRecOn with
  | nil => exact ⟨⟨fun _ before c after parts => by simp at parts, fun _ => rfl⟩, fun _ => rfl⟩
  | append_singleton calls c ih =>
    obtain ⟨answers, records⟩ := ih
    have earlier : (∀ before c' after, calls ++ [c] = before ++ c' :: after →
        A.Roomy room (A.heldAfter anyTime before) c') ↔
        (∀ before c' after, calls = before ++ c' :: after →
          A.Roomy room (A.heldAfter anyTime before) c') ∧
        A.Roomy room (A.heldAfter anyTime calls) c := by
      constructor
      · intro all
        exact ⟨fun before c' after parts => all before c' (after ++ [c]) (by simp [parts]),
          all calls c [] rfl⟩
      · rintro ⟨all, last⟩ before c' after parts
        rcases concat_eq_split parts with ⟨_, rfl, rfl⟩ | ⟨rest, rfl, inside⟩
        · exact last
        · exact all before c' rest inside
    have answered : ∀ left right : Except ε (LedgerAnswer P),
        (attempts (A.call anyTime) (fun _ => none) calls).1 ++ [left] =
          (attempts (A.call room) (fun _ => none) calls).1 ++ [right] ↔
        (attempts (A.call anyTime) (fun _ => none) calls).1 =
          (attempts (A.call room) (fun _ => none) calls).1 ∧ left = right := by
      intro left right
      rw [← List.concat_eq_append, ← List.concat_eq_append, List.concat_inj]
    rw [attempts_append, attempts_append, earlier]
    show ((_ : List _) ++ [(attempt (A.call anyTime) (A.heldAfter anyTime calls) c).1] =
      _ ++ [(attempt (A.call room) (A.heldAfter room calls) c).1] ↔ _) ∧ _
    rw [answered, answers, heldAfter_concat, heldAfter_concat]
    refine ⟨and_congr_right fun all => ?_, ?_⟩
    · rw [← records all]
      constructor
      · exact roomy_of_answer
      · intro roomy
        rw [attempt, attempt, call_roomy roomy]
    · rintro ⟨all, roomy⟩
      rw [← records all, attempt, attempt, call_roomy roomy]

end Runs

end Aggregates

end YHarness.Lib

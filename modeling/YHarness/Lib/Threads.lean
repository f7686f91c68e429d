/-
# YHarness.Lib.Threads -- requests served side by side

Every request is served by a task of its own, and the tasks make their calls on one
world in any order.  A call is made under the number of its request, so that a world
can record who made it.  `Service` says what every call keeps (`inv`) and what the
other requests leave alone for one of them (`rely`); `Service.setting` is the service
as that request meets it.  `Served.Reachable.ensures` turns what is proved of each
task in its setting into a fact about every run of every number of requests.

`TryTask.retry` is the loop of optimistic clients: an attempt that meets a conflict is
made again, a bounded number of times.
-/
import YHarness.Lib.Rely

namespace YHarness.Lib

set_option autoImplicit false

variable {Request Call : Type} {Reply : Call → Type} {World α ε : Type}

/-- What the calls of numbered requests do, which calls a request may make, what they
keep, what a request relies on from the others, and which numbers have done nothing yet. -/
structure Service (Call : Type) (Reply : Call → Type) (World : Type) where
  exec : World → Nat → (c : Call) → Reply c → World → Prop
  ok : Nat → World → Call → Prop
  inv : World → Prop
  rely : Nat → World → World → Prop
  idle : Nat → World → Prop

namespace Service

/-- Calls that may be made keep the invariant, and the other requests rely on them. -/
structure Sound (S : Service Call Reply World) : Prop where
  refl : ∀ n w, S.rely n w w
  trans : ∀ {n u v w}, S.rely n u v → S.rely n v w → S.rely n u w
  step : ∀ {w n c reply w'}, S.inv w → S.ok n w c → S.exec w n c reply w' →
    S.inv w' ∧ ∀ other, other ≠ n → S.rely other w w'
  idle : ∀ {n w w'}, S.idle n w → S.rely n w w' → S.idle n w'

/-- The service as one request meets it. -/
def setting (S : Service Call Reply World) (n : Nat) : Setting Call Reply World where
  exec w c reply w' := S.exec w n c reply w' ∧ S.inv w'
  rely w w' := S.rely n w w' ∧ S.inv w'

end Service

/-- What a suspended task ensures survives the other requests. -/
theorem Ensures.later {S : Service Call Reply World} (sound : S.Sound) {n : Nat}
    {post : α → World → Prop} (stable : ∀ a w w', post a w → S.rely n w w' → post a w')
    {task : Task Call Reply α} {w w' : World}
    (ensures : Ensures (S.setting n) (S.ok n) post task w) (relied : S.rely n w w') :
    Ensures (S.setting n) (S.ok n) post task w' := by
  cases task with
  | done a => exact stable a w w' ensures relied
  | call c next =>
    intro v later
    exact ensures v ⟨sound.trans relied later.1, later.2⟩

/-! ## Runs -/

/-- A world and the requests that were made, each with what is left of its task. -/
structure Served (Request Call : Type) (Reply : Call → Type) (World α : Type) where
  world : World
  tasks : List (Request × Task Call Reply α)

namespace Served

/-- A request is made, or the task of one makes its next call. -/
inductive Step (S : Service Call Reply World) (serve : Request → Task Call Reply α) :
    Served Request Call Reply World α → Served Request Call Reply World α → Prop
  | start {w : World} {tasks : List (Request × Task Call Reply α)} (request : Request) :
      Step S serve ⟨w, tasks⟩ ⟨w, tasks ++ [(request, serve request)]⟩
  | call {w w' : World} {before after : List (Request × Task Call Reply α)} {request : Request}
      {c : Call} {next : Reply c → Task Call Reply α} {reply : Reply c}
      (executes : S.exec w before.length c reply w') :
      Step S serve ⟨w, before ++ (request, .call c next) :: after⟩
        ⟨w', before ++ (request, next reply) :: after⟩

/-- The runs from a world in which nothing was requested. -/
inductive Reachable (S : Service Call Reply World) (serve : Request → Task Call Reply α)
    (initial : World) : Served Request Call Reply World α → Prop
  | start : Reachable S serve initial ⟨initial, []⟩
  | step {s s' : Served Request Call Reply World α} (reached : Reachable S serve initial s)
      (step : Step S serve s s') : Reachable S serve initial s'

variable {S : Service Call Reply World} {serve : Request → Task Call Reply α}
  {post : Nat → Request → α → World → Prop}

/-- What every state of a run satisfies. -/
structure Ensured (S : Service Call Reply World) (post : Nat → Request → α → World → Prop)
    (s : Served Request Call Reply World α) : Prop where
  inv : S.inv s.world
  idle : ∀ n, s.tasks.length ≤ n → S.idle n s.world
  tasks : ∀ n request task, s.tasks[n]? = some (request, task) →
    Ensures (S.setting n) (S.ok n) (post n request) task s.world

variable {s s' : Served Request Call Reply World α} {initial : World}

/-- A request once made stays the one it is. -/
theorem Step.requests (step : Step S serve s s') {n : Nat} {request : Request}
    {task : Task Call Reply α} (found : s.tasks[n]? = some (request, task)) :
    ∃ task', s'.tasks[n]? = some (request, task') := by
  cases step with
  | @start w earlier other =>
    exact ⟨task, (List.getElem?_append_left (List.getElem?_eq_some_iff.1 found).1).trans found⟩
  | @call w w' before after other c next reply executes =>
    have moved : before ++ (other, next reply) :: after =
        (before ++ (other, Task.call c next) :: after).set before.length
          (other, next reply) := by simp
    dsimp only at found ⊢
    rw [moved]
    by_cases same : n = before.length
    · subst same
      rw [List.getElem?_append_right (Nat.le_refl _), Nat.sub_self] at found
      cases found
      exact ⟨next reply, by simp⟩
    · exact ⟨task, (List.getElem?_set_ne (Ne.symm same)).trans found⟩

theorem Step.ensured (sound : S.Sound)
    (stable : ∀ n request a w w', post n request a w → S.rely n w w' → post n request a w')
    (step : Step S serve s s')
    (serves : ∀ n request task, s'.tasks[n]? = some (request, task) → ∀ w, S.inv w → S.idle n w →
      Ensures (S.setting n) (S.ok n) (post n request) (serve request) w)
    (ensured : Ensured S post s) : Ensured S post s' := by
  obtain ⟨held, idle, tasks⟩ := ensured
  cases step with
  | @start w earlier request =>
    refine ⟨held, fun n beyond => ?_, fun n other task found => ?_⟩
    · rw [List.length_append, List.length_singleton] at beyond
      exact idle n (by dsimp only; omega)
    · dsimp only at found
      rcases Nat.lt_trichotomy n earlier.length with before | rfl | beyond
      · rw [List.getElem?_append_left before] at found
        exact tasks n other task found
      · rw [List.getElem?_concat_length] at found
        cases found
        exact serves earlier.length request (serve request) (by simp) w held (idle _ (Nat.le_refl _))
      · have past : (earlier ++ [(request, serve request)]).length ≤ n := by
          rw [List.length_append, List.length_singleton]
          omega
        rw [List.getElem?_eq_none past] at found
        cases found
  | @call w w' before after request c next reply executes =>
    have here : (before ++ (request, Task.call c next) :: after)[before.length]? =
        some (request, .call c next) := by simp
    have own := tasks before.length request _ here
    obtain ⟨allowed, rest⟩ := own w ⟨sound.refl _ w, held⟩
    obtain ⟨held', relies⟩ := sound.step held allowed executes
    refine ⟨held', fun n beyond => ?_, fun n other task found => ?_⟩
    · have apart : n ≠ before.length := by
        rintro rfl
        rw [List.length_append, List.length_cons] at beyond
        omega
      exact sound.idle (idle n (by simpa using beyond)) (relies n apart)
    · by_cases same : n = before.length
      · subst same
        dsimp only at found
        rw [List.getElem?_append_right (Nat.le_refl _), Nat.sub_self] at found
        cases found
        exact rest reply w' ⟨executes, held'⟩
      · have moved : before ++ (request, next reply) :: after =
            (before ++ (request, Task.call c next) :: after).set before.length
              (request, next reply) := by simp
        dsimp only at found
        rw [moved, List.getElem?_set_ne (Ne.symm same)] at found
        exact (tasks n other task found).later sound (stable n other) (relies n same)

/-- **Every run.**  However many requests are made and however their calls interleave,
the invariant holds and every task ensures what it ensures alone in its setting.  Only the
requests that were made have to be served so. -/
theorem Reachable.ensuredOf (sound : S.Sound) (begins : S.inv initial)
    (unused : ∀ n, S.idle n initial)
    (stable : ∀ n request a w w', post n request a w → S.rely n w w' → post n request a w')
    {s : Served Request Call Reply World α} (reached : Reachable S serve initial s)
    (serves : ∀ n request task, s.tasks[n]? = some (request, task) → ∀ w, S.inv w → S.idle n w →
      Ensures (S.setting n) (S.ok n) (post n request) (serve request) w) :
    Ensured S post s := by
  induction reached with
  | start => exact ⟨begins, fun n _ => unused n, fun n request task found => by simp at found⟩
  | step _ step ih =>
    refine step.ensured sound stable serves (ih fun n request task found => ?_)
    obtain ⟨task', later⟩ := step.requests found
    exact serves n request task' later

theorem Reachable.ensured (sound : S.Sound) (begins : S.inv initial)
    (unused : ∀ n, S.idle n initial)
    (stable : ∀ n request a w w', post n request a w → S.rely n w w' → post n request a w')
    (serves : ∀ n request w, S.inv w → S.idle n w →
      Ensures (S.setting n) (S.ok n) (post n request) (serve request) w)
    {s : Served Request Call Reply World α} (reached : Reachable S serve initial s) :
    Ensured S post s :=
  reached.ensuredOf sound begins unused stable fun n request _ _ => serves n request

/-- What a request has ended with. -/
theorem Ensured.ended {s : Served Request Call Reply World α} (ensured : Ensured S post s)
    {n : Nat} {request : Request} {a : α} (found : s.tasks[n]? = some (request, .done a)) :
    post n request a s.world :=
  ensured.tasks n request _ found

/-! ### Computed runs -/

/-- A step of a run: a request is made, or the next call of one is answered. -/
inductive Move (Request Answer : Type) where
  | request (request : Request)
  | call (n : Nat) (answer : Answer)

variable {Answer : Type}

/-- The state a step leads to.  `answer` says what a call is answered with. -/
def act (answer : Answer → World → Nat → (c : Call) → Option (Reply c × World))
    (serve : Request → Task Call Reply α) (s : Served Request Call Reply World α) :
    Move Request Answer → Option (Served Request Call Reply World α)
  | .request request => some ⟨s.world, s.tasks ++ [(request, serve request)]⟩
  | .call n a =>
    match s.tasks[n]? with
    | some (request, .call c next) =>
      (answer a s.world n c).map fun replied =>
        ⟨replied.2, s.tasks.set n (request, next replied.1)⟩
    | _ => none

theorem step_of_act {answer : Answer → World → Nat → (c : Call) → Option (Reply c × World)}
    (legal : ∀ a w n c reply w', answer a w n c = some (reply, w') → S.exec w n c reply w')
    {move : Move Request Answer} (acted : act answer serve s move = some s') :
    Step S serve s s' := by
  obtain ⟨w, tasks⟩ := s
  cases move with
  | request request =>
    cases acted
    exact .start request
  | call n a =>
    unfold act at acted
    dsimp only at acted
    split at acted
    · rename_i request c next found
      obtain ⟨⟨reply, w'⟩, answered, rfl⟩ := Option.map_eq_some_iff.1 acted
      obtain ⟨within, here⟩ := List.getElem?_eq_some_iff.1 found
      have parts : tasks = tasks.take n ++ (request, .call c next) :: tasks.drop (n + 1) := by
        rw [← here, ← List.drop_eq_getElem_cons within, List.take_append_drop]
      have length : (tasks.take n).length = n := List.length_take_of_le (Nat.le_of_lt within)
      have moved : tasks.set n (request, next reply) =
          tasks.take n ++ (request, next reply) :: tasks.drop (n + 1) :=
        List.set_eq_take_append_cons_drop.trans (if_pos within)
      have executes := legal a w n c reply w' answered
      rw [← length] at executes
      have step : Step S serve
          ⟨w, tasks.take n ++ (request, .call c next) :: tasks.drop (n + 1)⟩
          ⟨w', tasks.take n ++ (request, next reply) :: tasks.drop (n + 1)⟩ := .call executes
      rw [← parts, ← moved] at step
      exact step
    · cases acted

theorem Reachable.of_acts {answer : Answer → World → Nat → (c : Call) → Option (Reply c × World)}
    (legal : ∀ a w n c reply w', answer a w n c = some (reply, w') → S.exec w n c reply w')
    {moves : List (Move Request Answer)} (reached : Reachable S serve initial s)
    (acted : moves.foldlM (act answer serve) s = some s') :
    Reachable S serve initial s' := by
  induction moves generalizing s with
  | nil =>
    cases acted
    exact reached
  | cons move moves ih =>
    obtain ⟨middle, first, rest⟩ := Option.bind_eq_some_iff.1 acted
    exact ih (reached.step (step_of_act legal first)) rest

end Served

/-! ## Retries -/

/-- Make an attempt that may end with a conflict, again after each conflict and at most
the given number of times.  The last conflict is the outcome when no attempt is left. -/
def TryTask.retry (attempt : TryTask Call Reply ε (Except ε α)) (ended : ε) :
    Nat → Option ε → TryTask Call Reply ε α
  | 0, lastConflict => .check (.error (lastConflict.getD ended))
  | attempts + 1, _ => do
    match ← attempt with
    | .ok a => .check (.ok a)
    | .error conflict => TryTask.retry attempt ended attempts (some conflict)

/-- **The retry rule.**  What holds before each attempt holds again after one that met
a conflict. -/
theorem Ensures.retry {S : Setting Call Reply World} {ok : World → Call → Prop}
    {attempt : TryTask Call Reply ε (Except ε α)} {ended : ε} {waiting : World → Prop}
    {post : Except ε α → World → Prop}
    (attempts : ∀ w, waiting w → Ensures S ok (fun outcome v => match outcome with
      | .ok (.ok a) => post (.ok a) v
      | .ok (.error _) => waiting v
      | .error e => post (.error e) v) attempt.run w)
    (fails : ∀ e w, waiting w → post (.error e) w) (count : Nat) (lastConflict : Option ε)
    {w : World} (start : waiting w) :
    Ensures S ok post (TryTask.retry attempt ended count lastConflict).run w := by
  induction count generalizing lastConflict w with
  | zero => exact fails _ w start
  | succ count ih =>
    refine Ensures.tryBind (attempts w start) (fun e v failed => failed) fun outcome v made => ?_
    cases outcome with
    | ok a => exact made
    | error conflict => exact ih (some conflict) made

end YHarness.Lib

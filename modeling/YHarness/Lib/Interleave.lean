/-
# YHarness.Lib.Interleave -- tasks over atomic calls

A task makes atomic calls on a shared world and goes on with each reply; several
tasks interleave call by call.  `Rules` say what a world satisfies (`inv`), how
it may change between two calls of a task (`ext`) and what a call must satisfy
when it is made (`ok`).  `Safe` follows one task under these rules, whatever the
other tasks do in between; `Pool.Reachable.safe` turns it into a fact about every
run of every number of tasks.
-/
import Mathlib.Data.List.Basic
import Mathlib.Logic.Relation

namespace YHarness.Lib

set_option autoImplicit false

/-- A task is done, or makes a call and goes on with the reply. -/
inductive Task (Call : Type) (Reply : Call → Type) (α : Type) where
  | done (result : α)
  | call (request : Call) (next : Reply request → Task Call Reply α)

namespace Task

variable {Call : Type} {Reply : Call → Type} {α β : Type}

def bind : Task Call Reply α → (α → Task Call Reply β) → Task Call Reply β
  | .done a, f => f a
  | .call c next, f => .call c fun reply => bind (next reply) f

instance : Monad (Task Call Reply) where
  pure := .done
  bind := bind

/-- The task of one call. -/
def request (c : Call) : Task Call Reply (Reply c) :=
  .call c .done

end Task

/-- Tasks that may fail. -/
abbrev TryTask (Call : Type) (Reply : Call → Type) (ε α : Type) : Type :=
  ExceptT ε (Task Call Reply) α

section Logic

variable {Call : Type} {Reply : Call → Type} {World : Type}

/-- What holds of a world, how it changes between two calls of a task, and what
a call must satisfy when it is made. -/
structure Rules (Call : Type) (Reply : Call → Type) (World : Type) where
  exec : World → (c : Call) → Reply c → World → Prop
  inv : World → Prop
  ext : World → World → Prop
  ok : World → Call → Prop

/-- Calls made under the rules keep them. -/
structure Rules.Sound (R : Rules Call Reply World) : Prop where
  refl : ∀ w, R.ext w w
  trans : ∀ {u v w}, R.ext u v → R.ext v w → R.ext u w
  step : ∀ {w c reply w'}, R.inv w → R.ok w c → R.exec w c reply w' → R.inv w' ∧ R.ext w w'

/-- From world `w` on, however the world is extended between its calls, the task
makes only calls that are `ok` and ends with a result that satisfies `post`. -/
def Safe {α : Type} (R : Rules Call Reply World) (post : World → α → Prop) :
    Task Call Reply α → World → Prop
  | .done a, w => ∀ w', R.ext w w' → R.inv w' → post w' a
  | .call c next, w => ∀ w', R.ext w w' → R.inv w' →
      R.ok w' c ∧ ∀ reply w'', R.exec w' c reply w'' → Safe R post (next reply) w''

variable {R : Rules Call Reply World} {α β ε : Type}

variable {post : World → α → Prop} {task : Task Call Reply α}

/-- What a suspended task knows survives the other tasks. -/
theorem Safe.later (sound : R.Sound) {w w' : World} (safe : Safe R post task w) (grows : R.ext w w') :
    Safe R post task w' := by
  cases task with
  | done a => exact fun u reaches holds => safe u (sound.trans grows reaches) holds
  | call c next => exact fun u reaches holds => safe u (sound.trans grows reaches) holds

/-- **Sequencing.**  The second task starts in a world that extends the first
one's, with what the first one ended with. -/
theorem Safe.bind (sound : R.Sound) {post' : World → β → Prop} {f : α → Task Call Reply β}
    {w : World} (held : R.inv w) (first : Safe R post task w)
    (rest : ∀ w' a, R.ext w w' → R.inv w' → (∀ u, R.ext w' u → R.inv u → post u a) →
      Safe R post' (f a) w') :
    Safe R post' (task.bind f) w := by
  induction task generalizing w with
  | done a => exact rest w a (sound.refl w) held first
  | call c next ih =>
    intro u reaches holds
    obtain ⟨allowed, later⟩ := first u reaches holds
    refine ⟨allowed, fun reply v executes => ?_⟩
    obtain ⟨held', grows⟩ := sound.step holds allowed executes
    exact ih reply held' (later reply v executes) fun w' a extended holds' ended =>
      rest w' a (sound.trans reaches (sound.trans grows extended)) holds' ended

end Logic

/-! ## Tasks that may fail -/

section Failure

variable {Call : Type} {Reply : Call → Type} {World : Type} {R : Rules Call Reply World}
  {α β ε : Type}

/-- A call whose reply is looked at. -/
def TryTask.call (c : Call) : TryTask Call Reply ε (Reply c) :=
  ExceptT.mk (.call c fun reply => .done (.ok reply))

/-- A check of values at hand. -/
def TryTask.check (outcome : Except ε α) : TryTask Call Reply ε α :=
  ExceptT.mk (.done outcome)

theorem TryTask.run_bind (task : TryTask Call Reply ε α) (f : α → TryTask Call Reply ε β) :
    (task >>= f).run = task.run.bind fun
      | .ok a => (f a).run
      | .error e => .done (.error e) := by
  show Task.bind task.run (ExceptT.bindCont f) = _
  congr 1
  funext outcome
  cases outcome <;> rfl

variable {f : α → TryTask Call Reply ε β}

/-- Sequencing of tasks that may fail: a failure ends the task. -/
theorem Safe.tryBind (sound : R.Sound) {post : World → Except ε α → Prop}
    {post' : World → Except ε β → Prop} {task : TryTask Call Reply ε α} {w : World} (held : R.inv w)
    (first : Safe R post task.run w)
    (fails : ∀ w' e, R.ext w w' → R.inv w' → post w' (.error e) → post' w' (.error e))
    (rest : ∀ w' a, R.ext w w' → R.inv w' → (∀ u, R.ext w' u → R.inv u → post u (.ok a)) →
      Safe R post' (f a).run w') :
    Safe R post' (task >>= f).run w := by
  rw [TryTask.run_bind]
  refine Safe.bind sound held first fun w' outcome extended holds ended => ?_
  cases outcome with
  | ok a => exact rest w' a extended holds ended
  | error e =>
    exact fun u later held' => fails u e (sound.trans extended later) held' (ended u later held')

/-- A check: the task goes on with what it returns. -/
theorem Safe.checkBind {post : World → Except ε β → Prop} {outcome : Except ε α} {w : World}
    (fails : ∀ e w', outcome = .error e → R.ext w w' → R.inv w' → post w' (.error e))
    (rest : ∀ a, outcome = .ok a → Safe R post (f a).run w) :
    Safe R post (TryTask.check outcome >>= f).run w := by
  cases outcome with
  | error e => exact fun w' => fails e w' rfl
  | ok a => exact rest a rfl

/-- A task whose outcome nobody waits for. -/
def TryTask.start (task : TryTask Call Reply ε α) : Task Call Reply Unit :=
  task.run.bind fun _ => .done ()

theorem Safe.start (sound : R.Sound) {post : World → Except ε α → Prop}
    {task : TryTask Call Reply ε α} {w : World} (held : R.inv w) (safe : Safe R post task.run w) :
    Safe R (fun _ _ => True) task.start w := by
  apply Safe.bind sound held safe
  intro w' outcome _ _ _
  exact fun _ _ _ => trivial

end Failure

/-! ## Runs of many tasks -/

section Runs

variable {Call : Type} {Reply : Call → Type} {World : Type}

/-- A world and the tasks under way. -/
structure Pool (Call : Type) (Reply : Call → Type) (World : Type) where
  world : World
  tasks : List (Task Call Reply Unit)

/-- One step: a task is started, or one task makes its next call. -/
inductive Pool.Step (exec : World → (c : Call) → Reply c → World → Prop)
    (spawn : World → Task Call Reply Unit → World → Prop) :
    Pool Call Reply World → Pool Call Reply World → Prop
  | start {w w' : World} {tasks : List (Task Call Reply Unit)} {task : Task Call Reply Unit}
      (admitted : spawn w task w') : Step exec spawn ⟨w, tasks⟩ ⟨w', task :: tasks⟩
  | call {w w' : World} {before after : List (Task Call Reply Unit)} {c : Call}
      {next : Reply c → Task Call Reply Unit} {reply : Reply c} (executes : exec w c reply w') :
      Step exec spawn ⟨w, before ++ .call c next :: after⟩ ⟨w', before ++ next reply :: after⟩

/-- The pools a run from `initial` leads to. -/
inductive Pool.Reachable (exec : World → (c : Call) → Reply c → World → Prop)
    (spawn : World → Task Call Reply Unit → World → Prop) (initial : World) :
    Pool Call Reply World → Prop
  | start : Reachable exec spawn initial ⟨initial, []⟩
  | step {p p' : Pool Call Reply World} (reached : Reachable exec spawn initial p)
      (step : Pool.Step exec spawn p p') : Reachable exec spawn initial p'

variable {R : Rules Call Reply World} {spawn : World → Task Call Reply Unit → World → Prop}
  {initial : World}

/-- A task may be started: the rules hold on and the task is safe. -/
def Rules.Admits (R : Rules Call Reply World)
    (spawn : World → Task Call Reply Unit → World → Prop) : Prop :=
  ∀ w task w', R.inv w → spawn w task w' →
    R.inv w' ∧ R.ext w w' ∧ Safe R (fun _ _ => True) task w'

variable {p p' : Pool Call Reply World}

/-- One step of a pool whose tasks are safe. -/
theorem Pool.Step.safe (sound : R.Sound) (admits : R.Admits spawn) (held : R.inv p.world)
    (tasks : ∀ task ∈ p.tasks, Safe R (fun _ _ => True) task p.world)
    (step : Pool.Step R.exec spawn p p') :
    R.inv p'.world ∧ R.ext p.world p'.world ∧
      ∀ task ∈ p'.tasks, Safe R (fun _ _ => True) task p'.world := by
  cases step with
  | start admitted =>
    obtain ⟨held', grows, safe⟩ := admits _ _ _ held admitted
    refine ⟨held', grows, fun task member => ?_⟩
    rcases List.mem_cons.1 member with rfl | earlier
    · exact safe
    · exact (tasks task earlier).later sound grows
  | @call w w' before after c next reply executes =>
    have own := tasks (.call c next) (by simp)
    obtain ⟨allowed, rest⟩ := own w (sound.refl w) held
    obtain ⟨held', grows⟩ := sound.step held allowed executes
    refine ⟨held', grows, fun task member => ?_⟩
    rcases List.mem_append.1 member with earlier | here
    · exact (tasks task (List.mem_append_left _ earlier)).later sound grows
    · rcases List.mem_cons.1 here with rfl | later
      · exact rest reply w' executes
      · exact (tasks task (by simp [later])).later sound grows

/-- **Every run.**  Whatever tasks are started and however they interleave, the
invariant holds and every task under way is safe. -/
theorem Pool.Reachable.safe (sound : R.Sound) (admits : R.Admits spawn) (begins : R.inv initial)
    {p : Pool Call Reply World} (reached : Pool.Reachable R.exec spawn initial p) :
    R.inv p.world ∧ ∀ task ∈ p.tasks, Safe R (fun _ _ => True) task p.world := by
  induction reached with
  | start => exact ⟨begins, by simp⟩
  | step _ step ih =>
    obtain ⟨held, _, tasks⟩ := step.safe sound admits ih.1 ih.2
    exact ⟨held, tasks⟩

/-- A later pool of a run extends an earlier one. -/
theorem Pool.Reachable.grows (sound : R.Sound) (admits : R.Admits spawn) (begins : R.inv initial)
    (reached : Pool.Reachable R.exec spawn initial p)
    (later : Relation.ReflTransGen (Pool.Step R.exec spawn) p p') :
    R.ext p.world p'.world ∧ Pool.Reachable R.exec spawn initial p' := by
  induction later with
  | refl => exact ⟨sound.refl _, reached⟩
  | tail _ step ih =>
    obtain ⟨grown, reached⟩ := ih
    obtain ⟨held, tasks⟩ := reached.safe sound admits begins
    exact ⟨sound.trans grown (step.safe sound admits held tasks).2.1, .step reached step⟩

end Runs

/-! ## A task alone -/

section Alone

variable {Call : Type} {Reply : Call → Type} {World : Type} {α β ε : Type}

/-- The outcomes of a task that runs without others. -/
inductive Task.Runs (exec : World → (c : Call) → Reply c → World → Prop) :
    Task Call Reply α → World → α → World → Prop
  | done (a : α) (w : World) : Runs exec (.done a) w a w
  | call {c : Call} {next : Reply c → Task Call Reply α} {w w' w'' : World} {reply : Reply c}
      {a : α} (executes : exec w c reply w') (rest : Runs exec (next reply) w' a w'') :
      Runs exec (.call c next) w a w''

variable {exec : World → (c : Call) → Reply c → World → Prop}

theorem Task.runs_done {a b : α} {w w' : World} :
    Task.Runs exec (.done a) w b w' ↔ b = a ∧ w' = w := by
  constructor
  · rintro ⟨⟩
    exact ⟨rfl, rfl⟩
  · rintro ⟨rfl, rfl⟩
    exact .done b w'

variable {w w'' : World}

theorem Task.runs_call {c : Call} {next : Reply c → Task Call Reply α} {a : α} :
    Task.Runs exec (.call c next) w a w'' ↔
      ∃ reply w', exec w c reply w' ∧ Task.Runs exec (next reply) w' a w'' := by
  constructor
  · rintro (_ | ⟨executes, rest⟩)
    exact ⟨_, _, executes, rest⟩
  · rintro ⟨reply, w', executes, rest⟩
    exact .call executes rest

theorem Task.runs_bind {task : Task Call Reply α} {f : α → Task Call Reply β} {b : β} :
    Task.Runs exec (task.bind f) w b w'' ↔
      ∃ a w', Task.Runs exec task w a w' ∧ Task.Runs exec (f a) w' b w'' := by
  induction task generalizing w with
  | done a =>
    simp only [Task.bind, Task.runs_done]
    constructor
    · intro rest
      exact ⟨a, w, ⟨rfl, rfl⟩, rest⟩
    · rintro ⟨_, _, ⟨rfl, rfl⟩, rest⟩
      exact rest
  | call c next ih =>
    simp only [Task.bind, Task.runs_call, ih]
    constructor
    · rintro ⟨reply, u, executes, a, w', first, rest⟩
      exact ⟨a, w', ⟨reply, u, executes, first⟩, rest⟩
    · rintro ⟨a, w', ⟨reply, u, executes, first⟩, rest⟩
      exact ⟨reply, u, executes, a, w', first, rest⟩

/-- A task that may fail and succeeds ran through. -/
theorem TryTask.runs_bind {task : TryTask Call Reply ε α} {f : α → TryTask Call Reply ε β}
    {outcome : Except ε β} :
    Task.Runs exec (task >>= f).run w outcome w'' ↔
      (∃ a w', Task.Runs exec task.run w (.ok a) w' ∧
        Task.Runs exec (f a).run w' outcome w'') ∨
      ∃ e, outcome = .error e ∧ Task.Runs exec task.run w (.error e) w'' := by
  rw [TryTask.run_bind, Task.runs_bind]
  constructor
  · rintro ⟨_ | a, w', first, rest⟩
    · obtain ⟨rfl, rfl⟩ := Task.runs_done.1 rest
      exact .inr ⟨_, rfl, first⟩
    · exact .inl ⟨a, w', first, rest⟩
  · rintro (⟨a, w', first, rest⟩ | ⟨e, rfl, first⟩)
    · exact ⟨.ok a, w', first, rest⟩
    · exact ⟨.error e, w'', first, .done _ _⟩

/-- A pool may run a task it is given to its end before any other goes on. -/
theorem Pool.Reachable.alone {spawn : World → Task Call Reply Unit → World → Prop}
    {initial w w' w'' : World} {task : Task Call Reply Unit} {tasks : List (Task Call Reply Unit)}
    (reached : Pool.Reachable exec spawn initial ⟨w, tasks⟩) (spawned : spawn w task w')
    {result : Unit} (runs : Task.Runs exec task w' result w'') :
    Pool.Reachable exec spawn initial ⟨w'', .done result :: tasks⟩ := by
  replace reached : Pool.Reachable exec spawn initial ⟨w', task :: tasks⟩ :=
    .step reached (.start spawned)
  clear spawned
  induction runs with
  | done => exact reached
  | call executes _ ih =>
    refine ih (.step reached ?_)
    rw [← List.nil_append (Task.call _ _ :: tasks), ← List.nil_append (_ :: tasks)]
    exact .call executes

end Alone

end YHarness.Lib

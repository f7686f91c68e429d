/-
# YHarness.Lib.Rely -- one task against its environment

A task makes its calls while an environment changes the world between them.
`Setting` says what a call does (`exec`) and what the environment may do between
two calls (`rely`).  `Ensures` follows the task through every reply and every
change: `ok` holds of each call in the world it is made in and `post` of what the
task ends with.  `Task.Against` are the runs of the task, `Task.Reaches` their
prefixes; `Task.play` computes one run from the moves made in it.
-/
import YHarness.Lib.Interleave
import Mathlib.Logic.Relation

namespace YHarness.Lib

set_option autoImplicit false

variable {Call : Type} {Reply : Call → Type} {World : Type} {α β ε : Type}

/-- What the calls of a task do and what happens between them. -/
structure Setting (Call : Type) (Reply : Call → Type) (World : Type) where
  exec : World → (c : Call) → Reply c → World → Prop
  rely : World → World → Prop

/-- From world `w` on, every call is `ok` where it is made and `post` holds when
the task ends. -/
def Ensures (S : Setting Call Reply World) (ok : World → Call → Prop) (post : α → World → Prop) :
    Task Call Reply α → World → Prop
  | .done a, w => post a w
  | .call c next, w => ∀ v, S.rely w v →
      ok v c ∧ ∀ reply u, S.exec v c reply u → Ensures S ok post (next reply) u

variable {S : Setting Call Reply World} {ok : World → Call → Prop}

variable {task : Task Call Reply α} {post : α → World → Prop} {w : World}
  {f : α → TryTask Call Reply ε β} {a : α}

theorem Ensures.mono {post post' : α → World → Prop} (ensures : Ensures S ok post task w)
    (implies : ∀ a w, post a w → post' a w) :
    Ensures S ok post' task w := by
  induction task generalizing w with
  | done a => exact implies a w ensures
  | call c next ih =>
    intro v relied
    obtain ⟨held, rest⟩ := ensures v relied
    exact ⟨held, fun reply u executes => ih reply (rest reply u executes)⟩

/-- **Sequencing.** -/
theorem Ensures.bind {post' : β → World → Prop} {f : α → Task Call Reply β}
    (first : Ensures S ok post task w) (rest : ∀ a w, post a w → Ensures S ok post' (f a) w) :
    Ensures S ok post' (task.bind f) w := by
  induction task generalizing w with
  | done a => exact rest a w first
  | call c next ih =>
    intro v relied
    obtain ⟨held, later⟩ := first v relied
    exact ⟨held, fun reply u executes => ih reply (later reply u executes)⟩

/-! ## Tasks that may fail -/

/-- Look at the outcome of a task instead of failing with it. -/
def TryTask.attempt (task : TryTask Call Reply ε α) : TryTask Call Reply ε (Except ε α) :=
  ExceptT.mk (task.run.bind fun outcome => .done (.ok outcome))

/-- A task that cannot fail. -/
def TryTask.lift (task : Task Call Reply α) : TryTask Call Reply ε α :=
  ExceptT.mk (task.bind fun a => .done (.ok a))

theorem Ensures.tryBind {post : Except ε α → World → Prop} {post' : Except ε β → World → Prop}
    {task : TryTask Call Reply ε α} (first : Ensures S ok post task.run w)
    (fails : ∀ e w, post (.error e) w → post' (.error e) w)
    (rest : ∀ a w, post (.ok a) w → Ensures S ok post' (f a).run w) :
    Ensures S ok post' (task >>= f).run w := by
  rw [TryTask.run_bind]
  apply Ensures.bind first
  intro outcome u ended
  cases outcome with
  | ok a => exact rest a u ended
  | error e => exact fails e u ended

/-- A call and what follows it. -/
theorem Ensures.callBind {post : Except ε β → World → Prop} {c : Call}
    {f : Reply c → TryTask Call Reply ε β}
    (step : ∀ v, S.rely w v → ok v c ∧ ∀ reply u, S.exec v c reply u →
      Ensures S ok post (f reply).run u) :
    Ensures S ok post (TryTask.call c >>= f).run w :=
  step

/-- A check of values at hand and what follows it. -/
theorem Ensures.checkBind {post : Except ε β → World → Prop} {outcome : Except ε α}
    (fails : ∀ e, outcome = .error e → post (.error e) w)
    (rest : ∀ a, outcome = .ok a → Ensures S ok post (f a).run w) :
    Ensures S ok post (TryTask.check outcome >>= f).run w := by
  cases outcome with
  | error e => exact fails e rfl
  | ok a => exact rest a rfl

theorem Ensures.check {post : Except ε α → World → Prop} {outcome : Except ε α}
    (ended : post outcome w) :
    Ensures S ok post (TryTask.check outcome : TryTask Call Reply ε α).run w :=
  ended

/-! ## Runs -/

/-- The calls of a run with the answers they got. -/
abbrev Trace (Call : Type) (Reply : Call → Type) := List (Sigma Reply)

/-- The outcomes of a task that runs against its environment. -/
inductive Task.Against (S : Setting Call Reply World) :
    Task Call Reply α → World → Trace Call Reply → α → World → Prop
  | done (a : α) (w : World) : Against S (.done a) w [] a w
  | call {c : Call} {next : Reply c → Task Call Reply α} {w v u w' : World} {reply : Reply c}
      {trace : Trace Call Reply} {a : α} (relied : S.rely w v) (executes : S.exec v c reply u)
      (rest : Against S (next reply) u trace a w') :
      Against S (.call c next) w (⟨c, reply⟩ :: trace) a w'

/-- What a task and its world have become after some of its calls. -/
inductive Task.Reaches (S : Setting Call Reply World) :
    Task Call Reply α → World → Task Call Reply α → World → Prop
  | refl (task : Task Call Reply α) (w : World) : Reaches S task w task w
  | call {c : Call} {next : Reply c → Task Call Reply α} {w v u w' : World} {reply : Reply c}
      {task : Task Call Reply α} (relied : S.rely w v) (executes : S.exec v c reply u)
      (rest : Reaches S (next reply) u task w') : Reaches S (.call c next) w task w'

variable {trace : Trace Call Reply}

theorem Ensures.outcome {w w' : World} (ensures : Ensures S ok post task w)
    (runs : Task.Against S task w trace a w') : post a w' := by
  induction runs with
  | done a w => exact ensures
  | call relied executes _ ih => exact ih ((ensures _ relied).2 _ _ executes)

theorem Ensures.reaches {task task' : Task Call Reply α} {w w' : World}
    (ensures : Ensures S ok post task w) (reached : Task.Reaches S task w task' w') :
    Ensures S ok post task' w' := by
  induction reached with
  | refl task w => exact ensures
  | call relied executes _ ih => exact ih ((ensures _ relied).2 _ _ executes)

/-- A task whose calls are all answered runs to its end. -/
theorem Ensures.exists_run (idle : ∀ w, S.rely w w)
    (answered : ∀ w c, ok w c → ∃ reply u, S.exec w c reply u) (ensures : Ensures S ok post task w) :
    ∃ trace a u, Task.Against S task w trace a u := by
  induction task generalizing w with
  | done a => exact ⟨[], a, w, .done a w⟩
  | call c next ih =>
    obtain ⟨held, later⟩ := ensures w (idle w)
    obtain ⟨reply, v, executes⟩ := answered w c held
    obtain ⟨trace, a, u, rest⟩ := ih reply (later reply v executes)
    exact ⟨_, a, u, .call (idle w) executes rest⟩

/-- The setting in which only calls that meet a condition are made. -/
def Setting.where (S : Setting Call Reply World) (allowed : World → Call → Prop) :
    Setting Call Reply World where
  exec w c reply w' := allowed w c ∧ S.exec w c reply w'
  rely := S.rely

theorem Task.Against.of_where {allowed : World → Call → Prop} {w w' : World}
    (runs : Task.Against (S.where allowed) task w trace a w') :
    Task.Against S task w trace a w' := by
  induction runs with
  | done a w => exact .done a w
  | call relied executes _ ih => exact .call relied executes.2 ih

/-- **Simulation.**  Worlds that stay related through the environment and through
every answered call run the same task with the same calls, answers and outcome. -/
theorem Task.Against.simulate {World' : Type} {T : Setting Call Reply World'}
    {R : World → World' → Prop}
    (relies : ∀ {w v w'}, S.rely w v → R w w' → ∃ v', T.rely w' v' ∧ R v v')
    (answers : ∀ {w c reply v w'}, S.exec w c reply v → R w w' →
      ∃ v', T.exec w' c reply v' ∧ R v v') {w u : World} (runs : Task.Against S task w trace a u)
    {w' : World'} (start : R w w') :
    ∃ u', Task.Against T task w' trace a u' ∧ R u u' := by
  induction runs generalizing w' with
  | done a w => exact ⟨w', .done a w', start⟩
  | call relied executes _ ih =>
    obtain ⟨v', relied', middle⟩ := relies relied start
    obtain ⟨u', executes', after⟩ := answers executes middle
    obtain ⟨end', rest', ended⟩ := ih after
    exact ⟨end', .call relied' executes' rest', ended⟩

/-- The run in which the given moves are made, one for each call.  `answer` says
what a move does before and in a call. -/
def Task.play {Move : Type} (answer : Move → World → (c : Call) → Option (Reply c × World)) :
    Task Call Reply α → List Move → World → Option (α × World)
  | .done a, _, w => some (a, w)
  | .call _ _, [], _ => none
  | .call c next, move :: moves, w =>
    match answer move w c with
    | none => none
    | some (reply, u) => play answer (next reply) moves u

theorem Task.against_of_play {Move : Type}
    {answer : Move → World → (c : Call) → Option (Reply c × World)}
    (legal : ∀ move w c reply u, answer move w c = some (reply, u) →
      ∃ v, S.rely w v ∧ S.exec v c reply u) {moves : List Move} {w w' : World}
    (played : task.play answer moves w = some (a, w')) :
    ∃ trace, Task.Against S task w trace a w' := by
  induction task generalizing moves w with
  | done b =>
    obtain ⟨rfl, rfl⟩ := Prod.mk.inj (Option.some.inj played)
    exact ⟨[], .done b w⟩
  | call c next ih =>
    cases moves with
    | nil => cases played
    | cons move moves =>
      unfold Task.play at played
      split at played
      · cases played
      · rename_i reply u answered
        obtain ⟨v, relied, executes⟩ := legal move w c reply u answered
        obtain ⟨trace, rest⟩ := ih reply played
        exact ⟨_, .call relied executes rest⟩

/-- What is left of a task after the given moves, one for each call. -/
def Task.follow {Move : Type} (answer : Move → World → (c : Call) → Option (Reply c × World)) :
    Task Call Reply α → List Move → World → Option (Task Call Reply α × World)
  | task, [], w => some (task, w)
  | .done _, _ :: _, _ => none
  | .call c next, move :: moves, w =>
    match answer move w c with
    | none => none
    | some (reply, u) => follow answer (next reply) moves u

theorem Task.reaches_of_follow {Move : Type}
    {answer : Move → World → (c : Call) → Option (Reply c × World)}
    (legal : ∀ move w c reply u, answer move w c = some (reply, u) →
      ∃ v, S.rely w v ∧ S.exec v c reply u)
    {task task' : Task Call Reply α} {moves : List Move} {w w' : World}
    (followed : task.follow answer moves w = some (task', w')) : Task.Reaches S task w task' w' := by
  induction moves generalizing task w with
  | nil =>
    obtain ⟨rfl, rfl⟩ := Prod.mk.inj (Option.some.inj (by simpa [Task.follow] using followed))
    exact .refl task w
  | cons move moves ih =>
    cases task with
    | done b => cases followed
    | call c next =>
      unfold Task.follow at followed
      split at followed
      · cases followed
      · rename_i reply u answered
        obtain ⟨v, relied, executes⟩ := legal move w c reply u answered
        exact .call relied executes (ih followed)

/-- Actions that make steps of the environment. -/
theorem relied_of_acts {A : Type} {act : A → World → Option World}
    {step : World → World → Prop} (legal : ∀ action w v, act action w = some v → step w v)
    {actions : List A} {w v : World}
    (acted : actions.foldlM (fun w action => act action w) w = some v) :
    Relation.ReflTransGen step w v := by
  induction actions generalizing w with
  | nil =>
    obtain rfl := Option.some.inj acted
    exact .refl
  | cons action actions ih =>
    obtain ⟨u, first, rest⟩ := Option.bind_eq_some_iff.1 acted
    exact .head (legal action w u first) (ih rest)

end YHarness.Lib

/-
# YHarness.Lib.Keyed -- one machine for each key, run over a mixed history

A checker that keeps a record for each key and lets an item touch only the record of
its own key runs one machine for each key side by side.  It accepts a history exactly
when every machine accepts the items of its key, in whatever way the items of different
keys are interleaved (`Keyed.accepts_iff`).
-/
import Mathlib.Data.List.Basic
import Mathlib.Logic.Function.Basic

namespace YHarness.Lib

set_option autoImplicit false

variable {κ σ α : Type} [DecidableEq κ]

/-- The items of one key, in order. -/
def itemsOf (key : α → Option κ) (k : κ) (items : List α) : List α :=
  items.filter fun item => decide (key item = some k)

theorem mem_itemsOf {key : α → Option κ} {k : κ} {items : List α} {item : α} :
    item ∈ itemsOf key k items ↔ item ∈ items ∧ key item = some k := by
  simp [itemsOf]

namespace Keyed

variable (key : α → Option κ) (move : σ → α → Option σ)

/-- One item moves the record of its key; an item without a key moves none. -/
def step (records : κ → σ) (item : α) : Option (κ → σ) :=
  match key item with
  | none => some records
  | some k => (move (records k) item).map (Function.update records k)

/-- **Run.**  The records after a history are those of the machines of the keys, each
run over its own items. -/
theorem foldlM_eq_some {items : List α} {records records' : κ → σ} :
    items.foldlM (step key move) records = some records' ↔
      ∀ k, (itemsOf key k items).foldlM move (records k) = some (records' k) := by
  induction items generalizing records with
  | nil =>
    simp only [itemsOf, List.filter_nil, List.foldlM_nil, Option.pure_def, Option.some.injEq]
    exact funext_iff
  | cons item rest ih =>
    rw [List.foldlM_cons]
    cases owner : key item with
    | none =>
      have moved : step key move records item = some records := by rw [step, owner]
      have skipped : ∀ k, itemsOf key k (item :: rest) = itemsOf key k rest := fun k => by
        rw [itemsOf, List.filter_cons_of_neg (by simp [owner])]
        rfl
      simp only [moved, Option.bind_eq_bind, Option.bind_some, skipped]
      exact ih
    | some k₀ =>
      have own : itemsOf key k₀ (item :: rest) = item :: itemsOf key k₀ rest := by
        rw [itemsOf, List.filter_cons_of_pos (by simp [owner])]
        rfl
      have others : ∀ k, k ≠ k₀ → itemsOf key k (item :: rest) = itemsOf key k rest :=
        fun k other => by
          rw [itemsOf, List.filter_cons_of_neg (by simp [owner, Ne.symm other])]
          rfl
      have moved : step key move records item =
          (move (records k₀) item).map (Function.update records k₀) := by rw [step, owner]
      rw [moved]
      constructor
      · intro ran k
        obtain ⟨next, came, later⟩ := Option.bind_eq_some_iff.1 ran
        obtain ⟨record, first, rfl⟩ := Option.map_eq_some_iff.1 came
        have each := ih.1 later k
        by_cases same : k = k₀
        · subst same
          rw [Function.update_self] at each
          rw [own, List.foldlM_cons, first]
          exact each
        · rw [Function.update_of_ne same] at each
          rw [others k same]
          exact each
      · intro each
        have mine := each k₀
        rw [own, List.foldlM_cons] at mine
        obtain ⟨record, first, later⟩ := Option.bind_eq_some_iff.1 mine
        rw [first, Option.map_some, Option.bind_eq_bind, Option.bind_some, ih]
        intro k
        by_cases same : k = k₀
        · subst same
          rw [Function.update_self]
          exact later
        · rw [Function.update_of_ne same, ← others k same]
          exact each k

/-- **Acceptance.**  The checker ends with good records exactly when the machine of every
key does, over the items of that key. -/
theorem accepts_iff {items : List α} {records : κ → σ} (good : σ → Prop) :
    (∃ records', items.foldlM (step key move) records = some records' ∧ ∀ k, good (records' k)) ↔
      ∀ k, ∃ record, (itemsOf key k items).foldlM move (records k) = some record ∧ good record := by
  constructor
  · rintro ⟨records', ran, ended⟩ k
    exact ⟨records' k, (foldlM_eq_some key move).1 ran k, ended k⟩
  · intro each
    choose records' ran ended using each
    exact ⟨records', (foldlM_eq_some key move).2 ran, ended⟩

end Keyed

end YHarness.Lib

/-
# YHarness.Kernel.Shape -- the JSON shape check and its stack

`validateValueShape` accepts exactly the values within the depth and the node limit
(`validateValueShape_eq_ok`).  This module adds what its traversal needs of memory:
`shapeStep` is one iteration of the loop, `Traverses` the states a traversal passes
through, and the values visited and waiting never exceed the node limit together.
-/
import YHarness.Kernel.Bounds

namespace YHarness.Kernel

open YHarness.Lib

set_option autoImplicit false

/-- One iteration of the loop: the stack it leaves once `value` is popped. -/
def shapeStep (value : Json) (depth : Nat) (pending : List (Json × Nat)) (visited : Nat) :
    Except BoundedJsonError (List (Json × Nat)) := do
  rejectIf (decide (maxJsonDepth < depth) || decide (maxJsonNodes < visited + 1)) .limitExceeded
  match value with
  | .arr values => do
    validateChildren (visited + 1) pending.length depth values.length
    .ok (pushed values depth ++ pending)
  | .obj fields => do
    validateChildren (visited + 1) pending.length depth fields.length
    .ok (pushed (fields.map (·.2)) depth ++ pending)
  | _ => .ok pending

theorem validateShapeLoop_cons (fuel : Nat) (value : Json) (depth : Nat)
    (pending : List (Json × Nat)) (visited : Nat) :
    validateShapeLoop (fuel + 1) ((value, depth) :: pending) visited =
      (do let stack ← shapeStep value depth pending visited
          validateShapeLoop fuel stack (visited + 1)) := by
  cases value <;>
    simp only [validateShapeLoop, shapeStep, pushed, ← List.map_reverse, List.map_map,
      Function.comp_def, bind_assoc, ok_bind]

/-- The stack and the count of visited values at the loop's head, over the whole
traversal of a value. -/
inductive Traverses (value : Json) : List (Json × Nat) → Nat → Prop
  | start : Traverses value [(value, 0)] 0
  | step {next : Json} {depth visited : Nat} {pending stack : List (Json × Nat)}
      (reached : Traverses value ((next, depth) :: pending) visited)
      (stepped : shapeStep next depth pending visited = .ok stack) :
      Traverses value stack (visited + 1)

variable {value : Json} {stack : List (Json × Nat)}

/-- An iteration pushes no more than the node limit leaves. -/
theorem length_le_of_shapeStep {depth visited : Nat} {pending stack : List (Json × Nat)}
    (stepped : shapeStep value depth pending visited = .ok stack)
    (within : visited + (pending.length + 1) ≤ maxJsonNodes) :
    visited + 1 + stack.length ≤ maxJsonNodes := by
  replace stepped := rest_ok stepped
  -- the room checked by `validate_children` counts this value and those waiting
  have room : ∀ {children : Nat} {values : List Json}, children = values.length →
      (do validateChildren (visited + 1) pending.length depth children
          .ok (pushed values depth ++ pending)) = Except.ok (ε := BoundedJsonError) stack →
      visited + 1 + stack.length ≤ maxJsonNodes := by
    intro children values same ended
    obtain ⟨fits, ended⟩ := seq_eq_ok.1 ended
    rw [validateChildren, rejectIf_eq_ok, Bool.or_eq_false_iff] at fits
    have small := of_decide_eq_false fits.2
    obtain rfl := ok_eq_ok.1 ended
    rw [List.length_append, pushed, List.length_map, List.length_reverse]
    omega
  cases value with
  | arr values => exact room rfl stepped
  | obj fields => exact room (List.length_map _).symm stepped
  | _ =>
    obtain rfl := ok_eq_ok.1 stepped
    omega

/-- **The stack is bounded.** -/
theorem Traverses.length_le {visited : Nat} (reached : Traverses value stack visited) :
    visited + stack.length ≤ maxJsonNodes := by
  induction reached with
  | start => exact (show 1 ≤ maxJsonNodes by decide)
  | step _ stepped ih => exact length_le_of_shapeStep stepped ih

/-- The states of a traversal are those of the loop that checks the value. -/
theorem Traverses.loop {visited : Nat} (reached : Traverses value stack visited) :
    validateValueShape value = validateShapeLoop (maxJsonNodes + 1 - visited) stack visited := by
  induction reached with
  | start => rfl
  | @step next depth visited pending stack earlier stepped ih =>
    have bounded := earlier.length_le
    rw [List.length_cons] at bounded
    have more : maxJsonNodes + 1 - visited = (maxJsonNodes + 1 - (visited + 1)) + 1 := by omega
    rw [ih, more, validateShapeLoop_cons, stepped, ok_bind]

/-- **The shape check is exact.**  It accepts a value exactly when the value is
within both limits, and the stack of its traversal never holds more entries than
the node limit. -/
theorem value_shape_exact (value : Json) :
    (validateValueShape value = .ok () ↔
      value.depth ≤ maxJsonDepth ∧ value.nodes ≤ maxJsonNodes) ∧
    ∀ (stack : List (Json × Nat)) (visited : Nat), Traverses value stack visited →
      stack.length ≤ maxJsonNodes ∧
      validateValueShape value =
        validateShapeLoop (maxJsonNodes + 1 - visited) stack visited := by
  refine ⟨validateValueShape_eq_ok, ?_⟩
  intro stack visited reached
  have bounded := reached.length_le
  exact ⟨by omega, reached.loop⟩

/-- An array in an array, with a member after it. -/
def nestedValue : Json :=
  .arr [.arr [.null], .bool true]

/-- Half way through, with the inner array still to be visited. -/
theorem value_shape_exact_nested :
    validateValueShape nestedValue =
      validateShapeLoop (maxJsonNodes + 1 - 2) [(.arr [.null], 1)] 2 :=
  ((value_shape_exact nestedValue).2 _ _ (.step (.step .start rfl) rfl)).2

end YHarness.Kernel

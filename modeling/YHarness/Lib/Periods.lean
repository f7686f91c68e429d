/-
# YHarness.Lib.Periods -- lists that end in copies of a block

`EndsInCopies` says it with a block, `Repeats` with indices, the way a program tests
it; they agree (`endsInCopies_iff`).  A map that tells the elements apart changes
neither.
-/
import Mathlib.Data.List.Basic

namespace YHarness.Lib

set_option autoImplicit false

section Periods

variable {α β : Type}

/-- The history ends in `repetitions` consecutive copies of one block of length `period`. -/
def EndsInCopies (repetitions period : Nat) (history : List α) : Prop :=
  ∃ block : List α, block.length = period ∧ (List.replicate repetitions block).flatten <:+ history

/-- The last `period * repetitions` elements are those of their first `period`, over
and over. -/
def Repeats (repetitions period : Nat) (history : List α) : Prop :=
  period * repetitions ≤ history.length ∧
    ∀ index, period ≤ index → index < period * repetitions →
      (history.drop (history.length - period * repetitions))[index]? =
        (history.drop (history.length - period * repetitions))[index % period]?

theorem length_copies (block : List α) (n : Nat) :
    (List.replicate n block).flatten.length = block.length * n := by
  rw [List.length_flatten, List.map_replicate, List.sum_replicate_nat, Nat.mul_comm]

theorem getElem?_copies (block : List α) (n : Nat) :
    ∀ {index : Nat}, index < block.length * n →
      (List.replicate n block).flatten[index]? = block[index % block.length]? := by
  induction n with
  | zero => intro index inside; simp at inside
  | succ n ih =>
    intro index inside
    rw [List.replicate_succ, List.flatten_cons, List.getElem?_append]
    split
    · rename_i first
      rw [Nat.mod_eq_of_lt first]
    · rename_i later
      rw [Nat.not_lt] at later
      rw [Nat.mul_succ] at inside
      rw [ih (by omega), Nat.mod_eq_sub_mod later]

variable {history : List α} {repetitions period : Nat}

/-- A list whose indices repeat with a period is made of copies of its first elements. -/
theorem eq_copies {period n : Nat} (length : history.length = period * n)
    (same : ∀ index, period ≤ index → index < period * n →
      history[index]? = history[index % period]?) :
    history = (List.replicate n (history.take period)).flatten := by
  have short : (history.take period).length * n = period * n := by
    rw [List.length_take, length]
    rcases Nat.eq_zero_or_pos n with rfl | positive
    · simp
    · rw [Nat.min_eq_left (Nat.le_mul_of_pos_right period positive)]
  apply List.ext_getElem?
  intro index
  by_cases inside : index < period * n
  · have some : 0 < period := Nat.pos_of_ne_zero (by rintro rfl; simp at inside)
    have times : 0 < n := Nat.pos_of_ne_zero (by rintro rfl; simp at inside)
    have block : (history.take period).length = period := by
      rw [List.length_take, length, Nat.min_eq_left (Nat.le_mul_of_pos_right period times)]
    rw [getElem?_copies _ _ (by rwa [short]), block,
      List.getElem?_take_of_lt (Nat.mod_lt index some)]
    by_cases early : index < period
    · rw [Nat.mod_eq_of_lt early]
    · exact same index (Nat.not_lt.1 early) inside
  · rw [List.getElem?_eq_none (by omega), List.getElem?_eq_none (by rw [length_copies, short]; omega)]

theorem endsInCopies_iff [Nonempty α] :
    EndsInCopies repetitions period history ↔ Repeats repetitions period history := by
  constructor
  · rintro ⟨block, rfl, front, rfl⟩
    have length := length_copies block repetitions
    refine ⟨by rw [List.length_append, length]; omega, ?_⟩
    intro index after inside
    have cut : (front ++ (List.replicate repetitions block).flatten).drop
        ((front ++ (List.replicate repetitions block).flatten).length - block.length * repetitions) =
          (List.replicate repetitions block).flatten := by
      rw [List.length_append, length, Nat.add_sub_cancel, List.drop_left]
    have within : index % block.length < block.length * repetitions :=
      Nat.lt_of_le_of_lt (Nat.mod_le _ _) inside
    rw [cut, getElem?_copies block repetitions inside, getElem?_copies block repetitions within,
      Nat.mod_mod]
  · rintro ⟨fits, same⟩
    rcases Nat.eq_zero_or_pos repetitions with rfl | positive
    · exact ⟨List.replicate period (Classical.arbitrary α), List.length_replicate, by simp⟩
    · have length : (history.drop (history.length - period * repetitions)).length =
          period * repetitions := by
        rw [List.length_drop]
        omega
      refine ⟨(history.drop (history.length - period * repetitions)).take period, ?_, ?_⟩
      · rw [List.length_take, length,
          Nat.min_eq_left (Nat.le_mul_of_pos_right period positive)]
      · rw [← eq_copies length same]
        exact List.drop_suffix _ _

/-- Telling the elements apart is all a map needs to keep the repetition. -/
theorem repeats_map {f : α → β} (apart : ∀ x ∈ history, ∀ y ∈ history, f x = f y → x = y) :
    Repeats repetitions period (history.map f) ↔ Repeats repetitions period history := by
  simp only [Repeats, List.length_map, ← List.map_drop, List.getElem?_map]
  generalize history.length - period * repetitions = start
  refine and_congr_right fun _ => forall_congr' fun index => forall_congr' fun _ =>
    forall_congr' fun _ => ⟨fun same => ?_, fun same => congrArg _ same⟩
  have held : ∀ {index : Nat} {x : α}, (history.drop start)[index]? = some x → x ∈ history :=
    fun found => List.mem_of_mem_drop (List.mem_of_getElem? found)
  cases here : (history.drop start)[index]? with
  | none => cases there : (history.drop start)[index % period]? with
    | none => rfl
    | some y => rw [here, there] at same; cases same
  | some x => cases there : (history.drop start)[index % period]? with
    | none => rw [here, there] at same; cases same
    | some y =>
      rw [here, there] at same
      rw [apart x (held here) y (held there) (Option.some.inj same)]

end Periods

end YHarness.Lib

/-
# YHarness.Lib.Unwinding -- what one client of a shared machine can learn

Many clients call one machine.  `replies` are the answers to the calls of one of
them, in a run of everybody's calls.  `Unwinds` says how that client's view of the
machine moves: its own calls are answered as a machine that serves it alone answers
them, and the calls of the others leave its view as it is.  Two runs with the same
calls of the client then give it the same answers (`Unwinds.noninterference`).

Calls carry the time they are made at, and a view may depend on how late it is.
-/
import Mathlib

namespace YHarness.Lib

set_option autoImplicit false

variable {S V C R τ : Type}

/-- The replies to the calls of one client, in a run of everybody's calls. -/
def replies (step : S → C → R × S) (mine : C → Bool) : S → List C → List R
  | _, [] => []
  | s, c :: rest =>
    if mine c then (step s c).1 :: replies step mine (step s c).2 rest
    else replies step mine (step s c).2 rest

/-- Something holds of every call of a run at the state that it meets. -/
def Throughout (step : S → C → R × S) (holds : S → C → Prop) : S → List C → Prop
  | _, [] => True
  | s, c :: rest => holds s c ∧ Throughout step holds (step s c).2 rest

instance Throughout.decide (step : S → C → R × S) (holds : S → C → Prop)
    [∀ s c, Decidable (holds s c)] : (s : S) → (calls : List C) →
      Decidable (Throughout step holds s calls)
  | _, [] => .isTrue trivial
  | s, c :: rest =>
    have := Throughout.decide step holds (step s c).2 rest
    inferInstanceAs (Decidable (holds s c ∧ Throughout step holds (step s c).2 rest))

/-- The calls of a run are made one after the other in time. -/
def Clocked [LE τ] (time : C → τ) (calls : List C) : Prop :=
  calls.Pairwise fun earlier later => time earlier ≤ time later

instance [LE τ] [DecidableLE τ] (time : C → τ) (calls : List C) : Decidable (Clocked time calls) :=
  inferInstanceAs (Decidable (calls.Pairwise fun earlier later => time earlier ≤ time later))

/-- The client's view of the machine, `sees now s v`, moves as `alone` does with the
calls of the client, and stays with the calls of the others. -/
structure Unwinds [LE τ] (step : S → C → R × S) (alone : V → C → R × V) (mine : C → Bool)
    (time : C → τ) (assumed : S → C → Prop) (sees : τ → S → V → Prop) : Prop where
  own : ∀ {now s v c}, sees now s v → now ≤ time c → assumed s c → mine c = true →
    (step s c).1 = (alone v c).1 ∧ sees (time c) (step s c).2 (alone v c).2
  others : ∀ {now s v c}, sees now s v → now ≤ time c → mine c = false →
    sees (time c) (step s c).2 v

namespace Unwinds

variable [LE τ] {step : S → C → R × S} {alone : V → C → R × V} {mine : C → Bool}
  {time : C → τ} {assumed : S → C → Prop} {sees : τ → S → V → Prop}

/-- The client is answered as by a machine of its own. -/
theorem replies_eq (unwinds : Unwinds step alone mine time assumed sees) {now : τ} {s : S} {v : V}
    {calls : List C} (seen : sees now s v) (later : ∀ c ∈ calls, now ≤ time c)
    (clocked : Clocked time calls) (assume : Throughout step assumed s calls) :
    replies step mine s calls = replies alone (fun _ => true) v (calls.filter mine) := by
  induction calls generalizing now s v with
  | nil => rfl
  | cons c rest ih =>
    obtain ⟨ordered, clocked⟩ := List.pairwise_cons.1 clocked
    obtain ⟨assumedHere, assume⟩ := assume
    have due := later c List.mem_cons_self
    by_cases own : mine c = true
    · obtain ⟨same, seen⟩ := unwinds.own seen due assumedHere own
      rw [List.filter_cons_of_pos own]
      show (if mine c = true then _ else _) = _
      rw [if_pos own, same, ih seen ordered clocked assume]
      rfl
    · have seen := unwinds.others seen due (Bool.not_eq_true _ ▸ own)
      rw [List.filter_cons_of_neg own]
      show (if mine c = true then _ else _) = _
      rw [if_neg own, ih seen ordered clocked assume]

/-- **Noninterference.**  Two runs with the same calls of the client answer it alike. -/
theorem noninterference [Std.Refl (α := τ) (· ≤ ·)]
    (unwinds : Unwinds step alone mine time assumed sees) {s : S} {v : V}
    (start : ∀ now, sees now s v) {calls calls' : List C}
    (same : calls.filter mine = calls'.filter mine)
    (clocked : Clocked time calls) (clocked' : Clocked time calls')
    (assume : Throughout step assumed s calls) (assume' : Throughout step assumed s calls') :
    replies step mine s calls = replies step mine s calls' := by
  have answered : ∀ calls : List C, Clocked time calls → Throughout step assumed s calls →
      replies step mine s calls = replies alone (fun _ => true) v (calls.filter mine) := by
    intro calls clocked assume
    cases calls with
    | nil => rfl
    | cons c rest =>
      refine unwinds.replies_eq (start (time c)) ?_ clocked assume
      intro call member
      rcases List.mem_cons.1 member with rfl | member
      · exact Std.Refl.refl _
      · exact (List.pairwise_cons.1 clocked).1 call member
  rw [answered calls clocked assume, answered calls' clocked' assume', same]

end Unwinds

end YHarness.Lib

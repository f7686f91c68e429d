/-
# YHarness.Lib.Check -- inversion rules for checks that may fail

A check is a computation in `Except`: a validator returns `Except ε Unit`, a
loader returns `Except ε α`.  These rules turn "the check succeeded" into the
facts the check established, for sequencing (`bind_eq_ok`), for a guard
(`rejectIf_eq_ok`), for a loop over a list (`checkAll_eq_ok`) and for an
accumulating loop (`foldlM_concat_eq_ok`).
-/
import Mathlib.Data.List.Basic
import Mathlib.Data.List.Forall2

namespace YHarness.Lib

set_option autoImplicit false

variable {ε α β : Type}

/-- Fail with `error` when `bad` holds. -/
def rejectIf (bad : Bool) (error : ε) : Except ε Unit :=
  if bad then .error error else .ok ()

/-- `.ok_or_else(|| error)`. -/
def orError (error : ε) : Option α → Except ε α
  | some value => .ok value
  | none => .error error

variable {x : Except ε α} {xs : List α} {u : Unit} {error : ε} {f : β → α → Except ε β}
  {check : α → Except ε Unit}

theorem bind_eq_ok {f : α → Except ε β} {b : β} :
    (x >>= f) = .ok b ↔ ∃ a, x = .ok a ∧ f a = .ok b := by
  cases x with
  | error e => simp [bind, Except.bind]
  | ok a => simp [bind, Except.bind]

/-- A computation that returns `a` returns `b` exactly when `b` is `a`. -/
theorem ok_eq_ok {a b : α} : (Except.ok a : Except ε α) = .ok b ↔ b = a := by
  rw [Except.ok.injEq, eq_comm]

@[simp] theorem ok_bind (a : α) (f : α → Except ε β) : (Except.ok a >>= f) = f a := rfl

@[simp] theorem error_bind (e : ε) (f : α → Except ε β) :
    ((Except.error e : Except ε α) >>= f) = .error e := rfl

@[simp] theorem rejectIf_eq_ok {bad : Bool} :
    rejectIf bad error = .ok u ↔ bad = false := by
  cases bad <;> simp [rejectIf]

@[simp] theorem rejectIf_false (error : ε) : rejectIf false error = .ok () := rfl

/-- A guard on a decidable condition passes where the condition fails. -/
theorem rejectIf_decide {p : Prop} [Decidable p] :
    rejectIf (decide p) error = .ok u ↔ ¬ p := by
  rw [rejectIf_eq_ok, decide_eq_false_iff_not]

/-- A guard on two values passes where they agree. -/
theorem rejectIf_bne [BEq α] [LawfulBEq α] {a b : α} :
    rejectIf (a != b) error = .ok u ↔ a = b := by
  rw [rejectIf_eq_ok, bne_eq_false_iff_eq]

/-- A refusal of one value under a condition. -/
theorem and_beq_eq_false {p : Prop} [Decidable p] [BEq α] [LawfulBEq α] {a b : α} :
    (decide p && a == b) = false ↔ (a = b → ¬ p) := by
  rw [Bool.and_eq_false_iff, decide_eq_false_iff_not, beq_eq_false_iff_ne, or_comm, imp_iff_not_or]

@[simp] theorem orError_eq_ok {o : Option α} {a : α} :
    orError error o = .ok a ↔ o = some a := by
  cases o <;> simp [orError]

/-- Two checks in sequence. -/
theorem seq_eq_ok {x : Except ε Unit} {y : Except ε β} {b : β} :
    (x >>= fun _ => y) = .ok b ↔ x = .ok () ∧ y = .ok b := by
  rw [bind_eq_ok]
  constructor
  · rintro ⟨_, hx, hy⟩; exact ⟨hx, hy⟩
  · rintro ⟨hx, hy⟩; exact ⟨(), hx, hy⟩

/-- What comes after a check that passed. -/
theorem rest_ok {x : Except ε Unit} {y : Except ε β} {b : β} (done : (x >>= fun _ => y) = .ok b) :
    y = .ok b :=
  (seq_eq_ok.1 done).2

theorem mapError_eq_ok {ε' : Type} {f : ε → ε'} {a : α} :
    x.mapError f = .ok a ↔ x = .ok a := by
  cases x <;> simp [Except.mapError]

/-- A computation that succeeds, read with any default. -/
theorem eq_ok_getD (a : α) (succeeds : x.toOption.isSome = true) :
    x = .ok (x.toOption.getD a) := by
  cases x with
  | error e => cases succeeds
  | ok b => rfl

theorem toOption_eq_some {a : α} : x.toOption = some a ↔ x = .ok a := by
  cases x <;> simp [Except.toOption]

/-- Check every element, in order. -/
def checkAll (check : α → Except ε Unit) : List α → Except ε Unit
  | [] => .ok ()
  | x :: xs => do
    check x
    checkAll check xs

theorem checkAll_eq_ok :
    checkAll check xs = .ok u ↔ ∀ x ∈ xs, check x = .ok () := by
  induction xs with
  | nil => simp [checkAll]
  | cons x xs ih => simp [checkAll, seq_eq_ok, ih]

/-- A loop that computes one result for each element. -/
theorem mapM_eq_ok {f : α → Except ε β} {ys : List β} :
    xs.mapM f = .ok ys ↔ List.Forall₂ (fun x y => f x = .ok y) xs ys := by
  induction xs generalizing ys with
  | nil =>
    rw [List.mapM_nil, List.forall₂_nil_left_iff]
    exact ok_eq_ok
  | cons x xs ih =>
    rw [List.mapM_cons, bind_eq_ok]
    constructor
    · rintro ⟨y, first, rest⟩
      obtain ⟨tail, later, ended⟩ := bind_eq_ok.1 rest
      cases ended
      exact .cons first (ih.1 later)
    · rintro (_ | ⟨first, later⟩)
      exact ⟨_, first, bind_eq_ok.2 ⟨_, ih.2 later, rfl⟩⟩

/-- The member of a computed list comes from a member of the list computed over. -/
theorem forall₂_exists_left {R : α → β → Prop} {ys : List β} (related : List.Forall₂ R xs ys)
    {y : β} (member : y ∈ ys) : ∃ x ∈ xs, R x y := by
  induction related with
  | nil => cases member
  | cons head _ ih =>
    rcases List.mem_cons.1 member with rfl | later
    · exact ⟨_, List.mem_cons_self, head⟩
    · obtain ⟨x, known, holds⟩ := ih later
      exact ⟨x, List.mem_cons_of_mem _ known, holds⟩

/-- Check a value only when there is one. -/
def checkSome (check : α → Except ε Unit) : Option α → Except ε Unit
  | none => .ok ()
  | some a => check a

@[simp] theorem checkSome_eq_ok {o : Option α} :
    checkSome check o = .ok u ↔ ∀ a, o = some a → check a = .ok () := by
  cases o <;> simp [checkSome]

/-- Check only when `applies` holds. -/
def checkIf (applies : Bool) (check : Except ε Unit) : Except ε Unit :=
  if applies then check else .ok ()

theorem foldlM_append_eq_ok {xs ys : List α} {b c : β} :
    (xs ++ ys).foldlM f b = .ok c ↔
      ∃ m, xs.foldlM f b = .ok m ∧ ys.foldlM f m = .ok c := by
  rw [List.foldlM_append, bind_eq_ok]

/-- The last step of an accumulating loop. -/
theorem foldlM_concat_eq_ok {x : α} {b c : β} :
    (xs ++ [x]).foldlM f b = .ok c ↔
      ∃ m, xs.foldlM f b = .ok m ∧ f m x = .ok c := by
  rw [foldlM_append_eq_ok]
  simp only [List.foldlM_cons, List.foldlM_nil]
  constructor
  · rintro ⟨m, hm, h⟩
    obtain ⟨c', hc, hp⟩ := bind_eq_ok.1 h
    cases hp
    exact ⟨m, hm, hc⟩
  · rintro ⟨m, hm, h⟩
    exact ⟨m, hm, bind_eq_ok.2 ⟨c, h, rfl⟩⟩

/-! ## Two computations side by side -/

/-- Both fail with one error, or both succeed with related results. -/
inductive Alike {γ : Type} (R : β → γ → Prop) : Except ε β → Except ε γ → Prop
  | ok {b : β} {c : γ} (related : R b c) : Alike R (.ok b) (.ok c)
  | error (e : ε) : Alike R (.error e) (.error e)

namespace Alike

variable {γ δ : Type} {R : β → γ → Prop}

theorem bind {Q : α → δ → Prop} {x : Except ε α} {y : Except ε δ} {f : α → Except ε β}
    {g : δ → Except ε γ} (first : Alike Q x y) (rest : ∀ a d, Q a d → Alike R (f a) (g d)) :
    Alike R (x >>= f) (y >>= g) := by
  cases first with
  | ok related => exact rest _ _ related
  | error e => exact .error e

variable {x : Except ε β} {y : Except ε γ}

theorem mono {R' : β → γ → Prop} (alike : Alike R x y) (weaker : ∀ b c, R b c → R' b c) :
    Alike R' x y := by
  cases alike with
  | ok related => exact .ok (weaker _ _ related)
  | error e => exact .error e

/-- What the left computation returns, besides. -/
theorem knowing {S : β → Prop} (alike : Alike R x y) (returns : ∀ b, x = .ok b → S b) :
    Alike (fun b c => R b c ∧ S b) x y := by
  cases alike with
  | ok related => exact .ok ⟨related, returns _ rfl⟩
  | error e => exact .error e

/-- What the left computation returns when the right one succeeds. -/
theorem of_right {c : γ} (alike : Alike R x y) (succeeds : y = .ok c) : ∃ b, x = .ok b ∧ R b c := by
  cases alike with
  | ok related =>
    cases succeeds
    exact ⟨_, rfl, related⟩
  | error => cases succeeds

/-- A result that only the right computation repackages. -/
theorem packaged {y : Except ε δ} {f : δ → γ} (alike : Alike (fun b d => R b (f d)) x y) :
    Alike R x (y >>= fun d => .ok (f d)) := by
  cases alike with
  | ok related => exact .ok related
  | error e => exact .error e

/-- A check that only the right computation makes, and that succeeds. -/
theorem extra {y : Except ε δ} {g : δ → Except ε γ} {d : δ} (succeeds : y = .ok d)
    (rest : Alike R x (g d)) : Alike R x (y >>= g) := by
  subst succeeds
  exact rest

/-- A computation that both begin with. -/
theorem shared (x : Except ε α) {f : α → Except ε β} {g : α → Except ε γ}
    (rest : ∀ a, x = .ok a → Alike R (f a) (g a)) : Alike R (x >>= f) (x >>= g) := by
  cases x with
  | ok a => exact rest a rfl
  | error e => exact .error e

end Alike

end YHarness.Lib

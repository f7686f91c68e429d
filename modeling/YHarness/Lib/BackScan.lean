/-
# YHarness.Lib.BackScan -- the longest fitting suffix, found newest element first

A history is cut to a budget by walking it backwards: an element joins what is kept already
until one is refused (`scanBack`).  What the walk looks for has a plain statement, the
longest suffix that fits (`LongestSuffix`), and an offer that takes an element exactly when
the suffix with it fits (`Decides`) finds it.  The result of the walk is then one equation
(`Decides.scanBack_eq`): it is the longest fitting suffix, and the only element beyond it
that is ever looked at is the one directly before it.
-/
import YHarness.Lib.Check

namespace YHarness.Lib

set_option autoImplicit false

variable {α σ ε : Type}

/-! ## Longest suffixes -/

/-- `kept` is the longest suffix of `xs` that fits. -/
structure LongestSuffix (fits : List α → Prop) (xs kept : List α) : Prop where
  suffix : kept <:+ xs
  admitted : fits kept
  longest : ∀ other, other <:+ xs → fits other → other <:+ kept

section Longest

variable {fits : List α → Prop}

theorem LongestSuffix.unique {xs kept kept' : List α} (left : LongestSuffix fits xs kept)
    (right : LongestSuffix fits xs kept') : kept = kept' :=
  (right.longest kept left.suffix left.admitted).eq_of_length_le
    (left.longest kept' right.suffix right.admitted).length_le

/-- The element directly before a longest suffix does not fit with it. -/
theorem LongestSuffix.stops {older kept : List α} {x : α}
    (longest : LongestSuffix fits (older ++ x :: kept) kept) : ¬ fits (x :: kept) := by
  intro more
  have shorter := (longest.longest (x :: kept) (List.suffix_append _ _) more).length_le
  rw [List.length_cons] at shorter
  omega

/-- When suffixes of what fits fit, a suffix is longest once the next element does not fit. -/
theorem longestSuffix_of_stops (closed : ∀ x xs, fits (x :: xs) → fits xs)
    {older kept : List α} (admitted : fits kept)
    (stops : ∀ front x, older = front ++ [x] → ¬ fits (x :: kept)) :
    LongestSuffix fits (older ++ kept) kept where
  suffix := List.suffix_append _ _
  admitted := admitted
  longest := by
    have shrink : ∀ more rest : List α, fits (more ++ rest) → fits rest := by
      intro more rest
      induction more with
      | nil => exact fun same => same
      | cons x more ih => exact fun larger => ih (closed x _ larger)
    intro other is_suffix larger
    rcases Nat.lt_or_ge kept.length other.length with longer | shorter
    · obtain ⟨more, rfl⟩ := List.suffix_of_suffix_length_le (List.suffix_append older kept)
        is_suffix (Nat.le_of_lt longer)
      rcases List.eq_nil_or_concat more with rfl | ⟨front, x, rfl⟩
      · simp
      · rw [List.concat_eq_append] at is_suffix larger
        obtain ⟨before, split⟩ := is_suffix
        rw [← List.append_assoc, List.append_left_inj, ← List.append_assoc] at split
        rw [List.append_assoc, List.singleton_append] at larger
        exact absurd (shrink front _ larger) (stops _ x split.symm)
    · exact List.suffix_of_suffix_length_le is_suffix (List.suffix_append _ _) shorter

/-- A list that nothing fits of has the empty longest suffix; so there always is one. -/
theorem exists_longestSuffix (empty : fits []) (closed : ∀ x xs, fits (x :: xs) → fits xs)
    (xs : List α) : ∃ kept, LongestSuffix fits xs kept := by
  induction xs with
  | nil => exact ⟨[], List.suffix_rfl, empty, fun _ within _ => within⟩
  | cons x xs ih =>
    obtain ⟨kept, longest⟩ := ih
    obtain ⟨older, rfl⟩ := longest.suffix
    by_cases whole : older = [] ∧ fits (x :: kept)
    · obtain ⟨rfl, larger⟩ := whole
      exact ⟨x :: kept, List.suffix_rfl, larger, fun _ within _ => within⟩
    · refine ⟨kept, @longestSuffix_of_stops _ _ closed (x :: older) kept longest.admitted ?_⟩
      intro front y split
      cases front with
      | nil =>
        obtain ⟨rfl, none⟩ : x = y ∧ older = [] := by simpa using split
        exact fun larger => whole ⟨none, larger⟩
      | cons z front =>
        obtain ⟨rfl, rfl⟩ : x = z ∧ older = front ++ [y] := by simpa using split
        rw [List.append_assoc] at longest
        exact longest.stops

end Longest

/-! ## The walk -/

/-- Offer the elements of a reversed list one after the other, until one is refused. -/
def scanBack (offer : α → σ → Except ε (Option σ)) : List α → σ → Except ε σ
  | [], state => .ok state
  | x :: earlier, state => do
    match ← offer x state with
    | none => .ok state
    | some next => scanBack offer earlier next

/-- Over the elements of `xs`, an offer to the state of what is kept takes an element
exactly when what is kept fits with it. -/
structure Decides (offer : α → σ → Except ε (Option σ)) (state : List α → σ)
    (fits : List α → Prop) (xs : List α) : Prop where
  empty : fits []
  closed : ∀ x kept, fits (x :: kept) → fits kept
  takes : ∀ x kept, x :: kept <:+ xs → fits (x :: kept) →
    offer x (state kept) = .ok (some (state (x :: kept)))
  refuses : ∀ x kept next, x :: kept <:+ xs → fits kept →
    offer x (state kept) = .ok (some next) → fits (x :: kept)

section Walk

variable {offer : α → σ → Except ε (Option σ)} {state : List α → σ} {fits : List α → Prop}
  {xs : List α}

/-- The walk passes over a suffix that fits. -/
theorem Decides.scanBack_append (decides : Decides offer state fits xs) {newer : List α}
    (within : newer <:+ xs) (admitted : fits newer) (earlier : List α) :
    scanBack offer (newer.reverse ++ earlier) (state []) =
      scanBack offer earlier (state newer) := by
  induction newer generalizing earlier with
  | nil => rfl
  | cons x newer ih =>
    have smaller : newer <:+ xs := (List.suffix_cons x newer).trans within
    rw [List.reverse_cons, List.append_assoc, ih smaller (decides.closed x newer admitted),
      List.singleton_append, scanBack, decides.takes x newer within admitted]
    rfl

/-- **The walk.**  It ends with the state of the longest suffix that fits, unless the one
element directly before that suffix makes the offer fail. -/
theorem Decides.scanBack_eq (decides : Decides offer state fits xs) {older kept : List α}
    (split : xs = older ++ kept) (longest : LongestSuffix fits xs kept) :
    scanBack offer xs.reverse (state []) =
      older.getLast?.elim (.ok (state kept))
        fun x => (offer x (state kept)).map fun _ => state kept := by
  have walked : scanBack offer xs.reverse (state []) =
      scanBack offer older.reverse (state kept) := by
    have passed := decides.scanBack_append longest.suffix longest.admitted older.reverse
    rwa [← List.reverse_append, ← split] at passed
  rw [walked]
  subst split
  rcases List.eq_nil_or_concat older with rfl | ⟨front, x, rfl⟩
  · rfl
  · rw [List.concat_eq_append, List.append_assoc, List.singleton_append] at longest
    have refused : ∀ next, offer x (state kept) ≠ .ok (some next) := fun next taken =>
      longest.stops (decides.refuses x kept next
        (by simp) longest.admitted taken)
    rw [List.concat_eq_append, List.reverse_append, List.getLast?_append]
    simp only [List.reverse_cons, List.reverse_nil, List.nil_append, List.singleton_append,
      List.getLast?_singleton, Option.some_or, Option.elim_some, scanBack]
    cases answer : offer x (state kept) with
    | error e => rfl
    | ok taken =>
      cases taken with
      | none => rfl
      | some next => exact absurd answer (refused next)

/-- A walk that ends has found the longest suffix. -/
theorem Decides.found (decides : Decides offer state fits xs) {older kept : List α}
    (split : xs = older ++ kept) (longest : LongestSuffix fits xs kept) {result : σ}
    (scanned : scanBack offer xs.reverse (state []) = .ok result) : result = state kept := by
  rw [decides.scanBack_eq split longest] at scanned
  cases last : older.getLast? with
  | none =>
    rw [last] at scanned
    exact (Except.ok.inj scanned).symm
  | some x =>
    rw [last, Option.elim_some] at scanned
    cases answer : offer x (state kept) with
    | error e =>
      rw [answer] at scanned
      cases scanned
    | ok taken =>
      rw [answer] at scanned
      exact (Except.ok.inj scanned).symm

/-- A walk that fails does so at the element directly before the longest suffix. -/
theorem Decides.failed (decides : Decides offer state fits xs) {older kept : List α}
    (split : xs = older ++ kept) (longest : LongestSuffix fits xs kept) {e : ε}
    (scanned : scanBack offer xs.reverse (state []) = .error e) :
    ∃ front x, older = front ++ [x] ∧ offer x (state kept) = .error e := by
  rw [decides.scanBack_eq split longest] at scanned
  rcases List.eq_nil_or_concat older with rfl | ⟨front, x, rfl⟩
  · cases scanned
  · rw [List.concat_eq_append, List.getLast?_concat, Option.elim_some] at scanned
    refine ⟨front, x, List.concat_eq_append, ?_⟩
    cases answer : offer x (state kept) with
    | error e' =>
      rw [answer] at scanned
      cases scanned
      rfl
    | ok taken =>
      rw [answer] at scanned
      cases scanned

end Walk

end YHarness.Lib

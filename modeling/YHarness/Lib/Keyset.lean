/-
# YHarness.Lib.Keyset -- a sorted list read page by page below a cursor

A list that descends along a key is read with a cursor: a page holds the first elements whose
key lies below it (`below`), and the key of its last element is the next cursor.  Going on
from a page is dropping it (`below_last`), so a reader that follows the cursors (`Pages`)
gets the whole list, each element once (`pages_complete`), and nothing else (`Pages.unique`).

Where elements come and go between the reads (`Scan`), the pages still fall along the key, and
what is there at every read is on one of them.
-/
import Mathlib

namespace YHarness.Lib

set_option autoImplicit false

variable {α κ ε : Type} [LinearOrder κ]

/-- Keys fall along the list. -/
def Descending (key : α → κ) (xs : List α) : Prop :=
  xs.Pairwise fun a b => key b < key a

/-- The elements below a cursor. -/
def below (key : α → κ) (cursor : Option κ) (xs : List α) : List α :=
  xs.filter fun x => cursor.all fun bound => decide (key x < bound)

section Cursor

variable {key : α → κ} {xs : List α}

@[simp] theorem below_none : below key none xs = xs :=
  List.filter_eq_self.2 fun _ _ => rfl

theorem below_cons_of_lt {cursor : Option κ} {x : α}
    (within : ∀ bound, cursor = some bound → key x < bound) :
    below key cursor (x :: xs) = x :: below key cursor xs := by
  refine List.filter_cons_of_pos ?_
  cases cursor with
  | none => rfl
  | some bound => exact decide_eq_true (within bound rfl)

theorem below_cons_of_not_lt {bound : κ} {x : α} (beyond : ¬ key x < bound) :
    below key (some bound) (x :: xs) = below key (some bound) xs :=
  List.filter_cons_of_neg (by simpa using beyond)

theorem mem_below {bound : κ} {x : α} : x ∈ below key (some bound) xs ↔ x ∈ xs ∧ key x < bound := by
  rw [below, List.mem_filter, Option.all_some, decide_eq_true_iff]

theorem Descending.filtered (descending : Descending key xs) (cursor : Option κ) :
    Descending key (below key cursor xs) :=
  descending.sublist List.filter_sublist

/-- A cursor leaves a suffix. -/
theorem below_eq_drop (descending : Descending key xs) (cursor : Option κ) :
    ∃ k, below key cursor xs = xs.drop k := by
  induction xs with
  | nil => exact ⟨0, rfl⟩
  | cons x xs ih =>
    obtain ⟨under, sorted⟩ := List.pairwise_cons.1 descending
    obtain ⟨k, rest⟩ := ih sorted
    cases cursor with
    | none => exact ⟨0, below_none⟩
    | some bound =>
      by_cases small : key x < bound
      · refine ⟨0, List.filter_eq_self.2 fun y member => decide_eq_true ?_⟩
        rcases List.mem_cons.1 member with rfl | later
        · exact small
        · exact (under y later).trans small
      · refine ⟨k + 1, ?_⟩
        rw [List.drop_succ_cons, ← rest, below_cons_of_not_lt small]

/-- Below the last element of a page lies the rest of the list. -/
theorem below_last (descending : Descending key xs) {n : Nat} {last : α}
    (is_last : (xs.take n).getLast? = some last) :
    below key (some (key last)) xs = xs.drop n := by
  obtain ⟨front, page⟩ := List.getLast?_eq_some_iff.1 is_last
  have split : Descending key (xs.take n ++ xs.drop n) := by
    rw [List.take_append_drop]
    exact descending
  obtain ⟨sorted, _, after⟩ := List.pairwise_append.1 split
  rw [← List.take_append_drop n xs, below, List.filter_append, List.take_append_drop]
  have none : (xs.take n).filter
      (fun x => (some (key last)).all fun bound => decide (key x < bound)) = [] := by
    rw [List.filter_eq_nil_iff, page]
    intro x member
    rw [Option.all_some, decide_eq_true_iff, not_lt]
    rcases List.mem_append.1 member with earlier | same
    · rw [page] at sorted
      exact ((List.pairwise_append.1 sorted).2.2 x earlier last (List.mem_singleton_self _)).le
    · rw [List.mem_singleton.1 same]
  have all : (xs.drop n).filter
      (fun x => (some (key last)).all fun bound => decide (key x < bound)) = xs.drop n := by
    rw [List.filter_eq_self]
    intro x member
    rw [Option.all_some, decide_eq_true_iff]
    exact after last (List.mem_of_getLast? is_last) x member
  rw [none, all, List.nil_append]

/-- A cursor that lies in a suffix of the list leaves a suffix of that suffix. -/
theorem below_of_below (descending : Descending key xs) {cursor : Option κ} {n : Nat} {last : α}
    (is_last : ((below key cursor xs).take n).getLast? = some last) :
    below key (some (key last)) xs = (below key cursor xs).drop n := by
  rw [← below_last (descending.filtered cursor) is_last]
  have member : last ∈ below key cursor xs := List.mem_of_mem_take (List.mem_of_getLast? is_last)
  cases cursor with
  | none => rw [below_none]
  | some bound =>
    rw [below, below, below, List.filter_filter]
    refine List.filter_congr fun x _ => ?_
    by_cases small : key x < key last
    · simp [small, small.trans (mem_below.1 member).2]
    · simp [small]

end Cursor

/-! ## Following the cursors -/

/-- What a reader that follows the cursors collects. -/
inductive Pages (page : Option κ → Except ε (List α × Option κ)) : Option κ → List α → Prop
  | last {cursor : Option κ} {xs : List α} (read : page cursor = .ok (xs, none)) :
      Pages page cursor xs
  | more {cursor : Option κ} {next : κ} {xs rest : List α}
      (read : page cursor = .ok (xs, some next)) (later : Pages page (some next) rest) :
      Pages page cursor (xs ++ rest)

variable {page : Option κ → Except ε (List α × Option κ)}

omit [LinearOrder κ] in
theorem Pages.unique {cursor : Option κ} {xs ys : List α} (left : Pages page cursor xs)
    (right : Pages page cursor ys) : xs = ys := by
  induction left generalizing ys with
  | last read =>
    cases right with
    | last read' =>
      rw [read] at read'
      cases read'
      rfl
    | more read' _ =>
      rw [read] at read'
      cases read'
  | more read _ ih =>
    cases right with
    | last read' =>
      rw [read] at read'
      cases read'
    | more read' later =>
      rw [read] at read'
      cases read'
      rw [ih later]

/-- The page of at most `limit` elements below a cursor, with the cursor of the next one. -/
def keysetPage (key : α → κ) (xs : List α) (limit : Nat) (cursor : Option κ) :
    List α × Option κ :=
  ((below key cursor xs).take limit,
    if limit < (below key cursor xs).length then ((below key cursor xs).take limit).getLast?.map key
    else none)

/-- **Completeness.**  Pages of a descending list, at least one element each, add up to it.
Every key of the list is a cursor the reader may use. -/
theorem pages_complete {key : α → κ} {xs : List α} (descending : Descending key xs) {limit : Nat}
    (positive : 1 ≤ limit) (allowed : Option κ → Prop)
    (next : ∀ x ∈ xs, allowed (some (key x)))
    (reads : ∀ cursor, allowed cursor → page cursor = .ok (keysetPage key xs limit cursor))
    {cursor : Option κ} (begins : allowed cursor) : Pages page cursor (below key cursor xs) := by
  have answer := reads cursor begins
  rw [keysetPage] at answer
  by_cases more : limit < (below key cursor xs).length
  · obtain ⟨last, is_last⟩ : ∃ last, ((below key cursor xs).take limit).getLast? = some last := by
      refine Option.ne_none_iff_exists'.1 fun none => ?_
      rw [List.getLast?_eq_none_iff, List.take_eq_nil_iff] at none
      rcases none with zero | empty
      · omega
      · rw [empty, List.length_nil] at more
        omega
    rw [if_pos more, is_last] at answer
    have member : last ∈ xs :=
      List.mem_of_mem_filter (List.mem_of_mem_take (List.mem_of_getLast? is_last))
    have rest := pages_complete descending positive allowed next reads (next last member)
    rw [below_of_below descending is_last] at rest
    rw [← List.take_append_drop limit (below key cursor xs)]
    exact .more answer rest
  · rw [if_neg more] at answer
    rw [← List.take_of_length_le (Nat.le_of_not_lt more)]
    exact .last answer
termination_by (below key cursor xs).length
decreasing_by
  rw [below_of_below descending is_last, List.length_drop]
  omega

/-! ## Pages of a changing list -/

/-- The elements below a cursor in falling order, out of those that are shown. -/
structure Candidates (key : α → κ) (shown : α → Prop) (cursor : Option κ) (xs : List α) : Prop where
  descending : Descending key xs
  members : ∀ x, x ∈ xs ↔ shown x ∧ ∀ bound, cursor = some bound → key x < bound

/-- What a reader collects at moments of type `τ`: each page is the front of the candidates
of its moment, and the key of its last element is the cursor of the next page. -/
inductive Scan {τ : Type} (key : α → κ) (shown : τ → α → Prop) :
    Option κ → List τ → List α → Prop
  | last {cursor : Option κ} {t : τ} {xs : List α}
      (candidates : Candidates key (shown t) cursor xs) : Scan key shown cursor [t] xs
  | more {cursor : Option κ} {t : τ} {ts : List τ} {xs ys : List α} {n : Nat} {z : α}
      (candidates : Candidates key (shown t) cursor xs) (is_last : (xs.take n).getLast? = some z)
      (later : Scan key shown (some (key z)) ts ys) :
      Scan key shown cursor (t :: ts) (xs.take n ++ ys)

namespace Scan

variable {τ : Type} {key : α → κ} {shown : τ → α → Prop} {cursor : Option κ} {ts : List τ}
  {xs ys : List α} {n : Nat} {z : α}

/-- The keys of a page do not lie below its last element, those of the rest do. -/
theorem page_split (descending : Descending key xs) (is_last : (xs.take n).getLast? = some z) :
    (∀ x ∈ xs.take n, key z ≤ key x) ∧ ∀ x ∈ xs.drop n, key x < key z := by
  have split : Descending key (xs.take n ++ xs.drop n) := by
    rw [List.take_append_drop]
    exact descending
  obtain ⟨page, _, after⟩ := List.pairwise_append.1 split
  refine ⟨fun x member => ?_, fun x => after z (List.mem_of_getLast? is_last) x⟩
  obtain ⟨front, parts⟩ := List.getLast?_eq_some_iff.1 is_last
  rw [parts] at page member
  rcases List.mem_append.1 member with earlier | same
  · exact ((List.pairwise_append.1 page).2.2 x earlier z (List.mem_singleton_self z)).le
  · rw [List.mem_singleton.1 same]

/-- Everything collected was shown at a read, and lies below the first cursor. -/
theorem collected (scan : Scan key shown cursor ts ys) :
    ∀ y ∈ ys, (∃ t ∈ ts, shown t y) ∧ ∀ bound, cursor = some bound → key y < bound := by
  induction scan with
  | last candidates =>
    intro y member
    obtain ⟨here, within⟩ := (candidates.members y).1 member
    exact ⟨⟨_, List.mem_singleton_self _, here⟩, within⟩
  | more candidates is_last _ ih =>
    intro y member
    rcases List.mem_append.1 member with now | later
    · obtain ⟨here, within⟩ := (candidates.members y).1 (List.mem_of_mem_take now)
      exact ⟨⟨_, List.mem_cons_self, here⟩, within⟩
    · obtain ⟨⟨t, moment, here⟩, under⟩ := ih y later
      refine ⟨⟨t, List.mem_cons_of_mem _ moment, here⟩, fun bound same => ?_⟩
      have front := List.mem_of_mem_take (List.mem_of_getLast? is_last)
      exact (under _ rfl).trans (((candidates.members _).1 front).2 bound same)

/-- **The pages fall along the key**, so no key comes twice. -/
theorem descending (scan : Scan key shown cursor ts ys) : Descending key ys := by
  induction scan with
  | last candidates => exact candidates.descending
  | more candidates is_last later ih =>
    refine List.pairwise_append.2 ⟨candidates.descending.sublist (List.take_sublist _ _), ih, ?_⟩
    intro x now y after
    have under := (later.collected y after).2 _ rfl
    exact under.trans_le ((page_split candidates.descending is_last).1 x now)

/-- **A key that is shown at every read is collected.** -/
theorem complete (scan : Scan key shown cursor ts ys) {k : κ}
    (always : ∀ t ∈ ts, ∃ x, shown t x ∧ key x = k)
    (within : ∀ bound, cursor = some bound → k < bound) : ∃ y ∈ ys, key y = k := by
  induction scan with
  | last candidates =>
    obtain ⟨x, here, same⟩ := always _ (List.mem_singleton_self _)
    refine ⟨x, (candidates.members x).2 ⟨here, ?_⟩, same⟩
    rw [same]
    exact within
  | @more cursor t ts xs ys n z candidates is_last _ ih =>
    obtain ⟨x, here, same⟩ := always _ List.mem_cons_self
    have member : x ∈ xs.take n ++ xs.drop n := by
      rw [List.take_append_drop]
      refine (candidates.members x).2 ⟨here, ?_⟩
      rw [same]
      exact within
    rcases List.mem_append.1 member with now | rest
    · exact ⟨x, List.mem_append_left _ now, same⟩
    · have under := (page_split candidates.descending is_last).2 x rest
      rw [same] at under
      obtain ⟨y, later, found⟩ := ih (fun t' moment => always t' (List.mem_cons_of_mem _ moment))
        (fun bound next => Option.some.inj next ▸ under)
      exact ⟨y, List.mem_append_right _ later, found⟩

end Scan

end YHarness.Lib

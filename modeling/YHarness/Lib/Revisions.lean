/-
# YHarness.Lib.Revisions -- chains of revisions

A store with optimistic concurrency keeps one record under each key and counts its
revisions: a key is created at revision one, and a record replaces only the one that
precedes it.  `Chained` says this of the log of everything that was committed, and
the rules read off it what such a store promises: under one key the revisions are
1, 2, 3, ... (`Chained.revisions`), and a key and a revision name one record
(`Chained.eq_of_revision`).
-/
import Mathlib.Data.List.Nodup
import YHarness.Lib.Ledger

namespace YHarness.Lib

set_option autoImplicit false

/-- How a committed record names its key and its revision. -/
structure Numbering (κ β : Type) where
  key : β → κ
  revision : β → Nat

namespace Numbering

variable {κ β : Type} [DecidableEq κ] (N : Numbering κ β)

/-- What was committed under a key, in order. -/
def under (log : List β) (k : κ) : List β :=
  log.filter fun record => decide (N.key record = k)

/-- The record a key holds after a log. -/
def latest (log : List β) (k : κ) : Option β :=
  (N.under log k).getLast?

theorem under_concat_self (log : List β) (record : β) :
    N.under (log ++ [record]) (N.key record) = N.under log (N.key record) ++ [record] := by
  simp [under, List.filter_append]

theorem under_concat_of_ne (log : List β) {record : β} {k : κ} (other : N.key record ≠ k) :
    N.under (log ++ [record]) k = N.under log k := by
  simp [under, List.filter_append, other]

theorem latest_concat (log : List β) (record : β) :
    N.latest (log ++ [record]) = Function.update (N.latest log) (N.key record) (some record) := by
  funext k
  by_cases same : k = N.key record
  · subst same
    rw [Function.update_self, latest, under_concat_self, List.getLast?_concat]
  · rw [Function.update_of_ne same, latest, under_concat_of_ne N log (Ne.symm same), latest]

theorem mem_of_latest {log : List β} {k : κ} {record : β} (found : N.latest log k = some record) :
    record ∈ log ∧ N.key record = k := by
  have member := List.mem_of_getLast? found
  rw [under, List.mem_filter, decide_eq_true_eq] at member
  exact member

/-- Each record continues what its key held when it was committed. -/
inductive Chained : List β → Prop
  | nil : Chained []
  | first {log : List β} {record : β} (chained : Chained log)
      (fresh : N.latest log (N.key record) = none) (one : N.revision record = 1) :
      Chained (log ++ [record])
  | next {log : List β} {record before : β} (chained : Chained log)
      (current : N.latest log (N.key record) = some before)
      (succ : N.revision record = N.revision before + 1) : Chained (log ++ [record])

namespace Chained

variable {N}

variable {log : List β}

/-- **The revisions under a key are 1, 2, 3, ...** -/
theorem revisions (chained : N.Chained log) (k : κ) :
    (N.under log k).map N.revision = List.range' 1 (N.under log k).length := by
  induction chained with
  | nil => rfl
  | @first log record _ fresh one ih =>
    by_cases same : N.key record = k
    · subst same
      have empty : N.under log (N.key record) = [] := List.getLast?_eq_none_iff.1 fresh
      rw [under_concat_self, empty, List.nil_append, List.map_singleton, one]
      rfl
    · rw [under_concat_of_ne N log same]
      exact ih
  | @next log record before _ current succ ih =>
    by_cases same : N.key record = k
    · subst same
      obtain ⟨earlier, split⟩ := List.getLast?_eq_some_iff.1 current
      have last : N.revision before = earlier.length + 1 := by
        rw [split, List.map_append, List.map_singleton, List.length_append,
          List.length_singleton, List.range'_concat] at ih
        have tail := List.append_inj_right' ih rfl
        rw [List.singleton_inj] at tail
        omega
      rw [under_concat_self, List.map_append, ih, List.length_append, List.length_singleton,
        List.range'_concat, List.map_singleton, succ, last, split, List.length_append,
        List.length_singleton]
      congr 2
      omega
    · rw [under_concat_of_ne N log same]
      exact ih

/-- **A key and a revision name one record.** -/
theorem eq_of_revision (chained : N.Chained log) {left right : β} (leftIn : left ∈ log)
    (rightIn : right ∈ log) (key : N.key left = N.key right)
    (revision : N.revision left = N.revision right) : left = right := by
  have distinct : ((N.under log (N.key left)).map N.revision).Nodup := by
    rw [chained.revisions]
    exact List.nodup_range'
  have member : ∀ record ∈ log, N.key record = N.key left →
      record ∈ N.under log (N.key left) := by
    intro record recorded same
    rw [under, List.mem_filter, decide_eq_true_eq]
    exact ⟨recorded, same⟩
  exact List.inj_on_of_nodup_map distinct (member left leftIn rfl)
    (member right rightIn key.symm) revision

/-- What a key holds is its highest revision. -/
theorem le_latest (chained : N.Chained log) {record : β} (recorded : record ∈ log) :
    ∃ last, N.latest log (N.key record) = some last ∧ N.revision record ≤ N.revision last := by
  induction chained with
  | nil => cases recorded
  | @first log added _ fresh _ ih =>
    rw [latest_concat]
    rcases List.mem_append.1 recorded with earlier | last
    · obtain ⟨before, found, le⟩ := ih earlier
      have other : N.key record ≠ N.key added := by
        intro same
        rw [same, fresh] at found
        cases found
      exact ⟨before, by rw [Function.update_of_ne other, found], le⟩
    · obtain rfl := List.mem_singleton.1 last
      exact ⟨record, Function.update_self .., Nat.le_refl _⟩
  | @next log added replaced _ current succ ih =>
    rw [latest_concat]
    rcases List.mem_append.1 recorded with earlier | last
    · obtain ⟨before, found, le⟩ := ih earlier
      by_cases same : N.key record = N.key added
      · rw [same, current] at found
        cases found
        exact ⟨added, by rw [same, Function.update_self], by omega⟩
      · exact ⟨before, by rw [Function.update_of_ne same, found], le⟩
    · obtain rfl := List.mem_singleton.1 last
      exact ⟨record, Function.update_self .., Nat.le_refl _⟩

/-- **One commit for each key and revision.** -/
theorem nodup (chained : N.Chained log) :
    (log.map fun record => (N.key record, N.revision record)).Nodup := by
  induction chained with
  | nil => exact List.nodup_nil
  | @first log added chained fresh _ ih =>
    rw [List.map_append, List.map_singleton, ← List.concat_eq_append]
    refine List.Nodup.concat ?_ ih
    intro member
    obtain ⟨record, recorded, same⟩ := List.mem_map.1 member
    obtain ⟨last, found, _⟩ := chained.le_latest recorded
    rw [(Prod.mk.inj same).1, fresh] at found
    cases found
  | @next log added replaced chained current succ ih =>
    rw [List.map_append, List.map_singleton, ← List.concat_eq_append]
    refine List.Nodup.concat ?_ ih
    intro member
    obtain ⟨record, recorded, same⟩ := List.mem_map.1 member
    obtain ⟨key, revision⟩ := Prod.mk.inj same
    obtain ⟨last, found, le⟩ := chained.le_latest recorded
    rw [key, current] at found
    cases found
    omega

/-- **What a record replaced**: nothing when it created its key, else the record of
the preceding revision. -/
theorem replaced {log before after : List β} {record : β} (chained : N.Chained log)
    (parts : log = before ++ record :: after) :
    (N.latest before (N.key record) = none ∧ N.revision record = 1) ∨
      ∃ previous, N.latest before (N.key record) = some previous ∧
        N.revision record = N.revision previous + 1 := by
  induction chained generalizing after with
  | nil => simp at parts
  | first _ fresh one ih =>
    rcases concat_eq_split parts with ⟨_, rfl, rfl⟩ | ⟨rest, _, earlier⟩
    · exact .inl ⟨fresh, one⟩
    · exact ih earlier
  | next _ current succ ih =>
    rcases concat_eq_split parts with ⟨_, rfl, rfl⟩ | ⟨rest, _, earlier⟩
    · exact .inr ⟨_, current, succ⟩
    · exact ih earlier

end Chained

end Numbering

/-- A fact about every record that a table holds is kept by a write that meets it. -/
theorem forall_update {κ β : Type} [DecidableEq κ] {P : κ → β → Prop} {held : κ → Option β}
    {k : κ} {b : β} (before : ∀ k b, held k = some b → P k b) (written : P k b) :
    ∀ k' b', Function.update held k (some b) k' = some b' → P k' b' := by
  intro k' b' found
  by_cases same : k' = k
  · subst same
    rw [Function.update_self] at found
    cases found
    exact written
  · rw [Function.update_of_ne same] at found
    exact before k' b' found

end YHarness.Lib

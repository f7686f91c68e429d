/-
# YHarness.Lib.OrdMap -- ordered maps read as lists of records

An ordered map is the extensional tree map of the standard library, read in key
order.  A program that walks such a map record by record needs to know which
records the walk meets (`mem_values`), that rewriting the record under one key
rewrites exactly one place of the walk (`toList_modify`), and how a total over
the walk moves when it does (`sum_toList_modify`).
-/
import Mathlib

namespace YHarness.Lib

set_option autoImplicit false
set_option linter.unusedSectionVars false

/-- A map in key order, as `BTreeMap` is. -/
abbrev OrdMap (K V : Type) [Ord K] : Type := Std.ExtTreeMap K V

/-- A set in key order, as `BTreeSet` is. -/
abbrev OrdSet (K : Type) [Ord K] : Type := Std.ExtTreeSet K

namespace OrdMap

variable {K V : Type} [Ord K] [Std.TransOrd K] [Std.LawfulEqOrd K]

/-- The records of a map, in key order. -/
def values (m : OrdMap K V) : List V :=
  m.toList.map (·.2)

variable {m : OrdMap K V} {k : K} {v : V}

theorem mem_values : v ∈ values m ↔ ∃ k : K, m[k]? = some v := by
  simp only [values, List.mem_map, Prod.exists, Std.ExtTreeMap.mem_toList_iff_getElem?_eq_some]
  constructor
  · rintro ⟨k, w, found, rfl⟩
    exact ⟨k, found⟩
  · rintro ⟨k, found⟩
    exact ⟨k, v, found, rfl⟩

theorem mem_toList : (k, v) ∈ m.toList ↔ m[k]? = some v :=
  Std.ExtTreeMap.mem_toList_iff_getElem?_eq_some

theorem length_values (m : OrdMap K V) : (values m).length = m.size := by
  rw [values, List.length_map, Std.ExtTreeMap.length_toList]

theorem contains_iff : m.contains k = true ↔ ∃ v, m[k]? = some v := by
  rw [← Std.ExtTreeMap.isSome_getElem?_eq_contains, Option.isSome_iff_exists]

theorem nodup_keys (m : OrdMap K V) : (m.toList.map (·.1)).Nodup := by
  rw [List.Nodup, List.pairwise_map]
  refine Std.ExtTreeMap.distinct_keys_toList.imp ?_
  intro a b distinct same
  exact distinct (by rw [same]; exact Std.ReflCmp.compare_self)

theorem nodup_toList (m : OrdMap K V) : m.toList.Nodup :=
  (nodup_keys m).of_map

@[simp] theorem get?_modify_self (m : OrdMap K V) (k : K) (f : V → V) :
    (m.modify k f)[k]? = m[k]?.map f := by
  rw [Std.ExtTreeMap.getElem?_modify, if_pos Std.ReflCmp.compare_self]

theorem get?_modify_of_ne (m : OrdMap K V) {k k' : K} (f : V → V) (ne : k ≠ k') :
    (m.modify k f)[k']? = m[k']? := by
  rw [Std.ExtTreeMap.getElem?_modify, if_neg fun same => ne (Std.LawfulEqCmp.eq_of_compare same)]

theorem get?_insert_of_ne (m : OrdMap K V) {k k' : K} (v : V) (ne : k ≠ k') :
    (m.insert k v)[k']? = m[k']? := by
  rw [Std.ExtTreeMap.getElem?_insert, if_neg fun same => ne (Std.LawfulEqCmp.eq_of_compare same)]

@[simp] theorem get?_insert_self (m : OrdMap K V) (k : K) (v : V) :
    (m.insert k v)[k]? = some v := by
  rw [Std.ExtTreeMap.getElem?_insert, if_pos Std.ReflCmp.compare_self]

theorem get?_empty (k : K) : (∅ : OrdMap K V)[k]? = none :=
  Std.ExtTreeMap.getElem?_empty

/-- A fact about every entry of a map is kept by an insertion that satisfies it. -/
theorem forall_insert [DecidableEq K] {P : K → V → Prop} (before : ∀ k v, m[k]? = some v → P k v)
    (fresh : P k v) :
    ∀ k' v', (m.insert k v)[k']? = some v' → P k' v' := by
  intro k' v' found
  by_cases same : k = k'
  · subst same
    rw [get?_insert_self] at found
    cases found
    exact fresh
  · rw [get?_insert_of_ne m v same] at found
    exact before k' v' found

/-- What is read of a map, by any reading of its records, after an insertion. -/
theorem map_get?_insert {W : Type} [DecidableEq K] (m : OrdMap K V) (k : K) (v : V) (read : V → W) :
    (fun k' => (m.insert k v)[k']?.map read) =
      Function.update (fun k' => m[k']?.map read) k (some (read v)) := by
  funext k'
  by_cases key : k' = k
  · rw [key, Function.update_self, get?_insert_self, Option.map_some]
  · rw [Function.update_of_ne key, get?_insert_of_ne m v (Ne.symm key)]

theorem map_get?_modify {W : Type} [DecidableEq K] (m : OrdMap K V) (k : K) (f : V → V)
    (read : V → W) :
    (fun k' => (m.modify k f)[k']?.map read) =
      Function.update (fun k' => m[k']?.map read) k (m[k]?.map (read ∘ f)) := by
  funext k'
  by_cases key : k' = k
  · rw [key, Function.update_self, get?_modify_self, Option.map_map]
  · rw [Function.update_of_ne key, get?_modify_of_ne m f (Ne.symm key)]

theorem get?_insert [DecidableEq K] (m : OrdMap K V) (k : K) (v : V) :
    (fun k' => (m.insert k v)[k']?) = Function.update (fun k' => m[k']?) k (some v) := by
  have read := map_get?_insert m k v id
  simpa only [Option.map_id_apply, id_eq] using read

theorem get?_insert_apply [DecidableEq K] (m : OrdMap K V) (k : K) (v : V) (k' : K) :
    (m.insert k v)[k']? = if k' = k then some v else m[k']? :=
  (congrFun (get?_insert m k v) k').trans (Function.update_apply ..)

theorem get?_modify [DecidableEq K] (m : OrdMap K V) (k : K) (f : V → V) :
    (fun k' => (m.modify k f)[k']?) = Function.update (fun k' => m[k']?) k (m[k]?.map f) := by
  have read := map_get?_modify m k f id
  simpa only [Option.map_id_apply, Function.id_comp] using read

/-- Filtering the records of a map only forgets some. -/
theorem get?_of_filter {keep : K → V → Bool} (found : (m.filter keep)[k]? = some v) :
    m[k]? = some v := by
  rw [Std.ExtTreeMap.getElem?_filter'] at found
  exact (Option.filter_eq_some_iff.1 found).1

/-- Two maps with the same records of one kind are walked alike over that kind. -/
theorem filter_toList_congr {left right : OrdMap K V} {keep : V → Bool}
    (same : ∀ k : K, left[k]?.filter keep = right[k]?.filter keep) {p : K × V → Bool}
    (within : ∀ entry, p entry = true → keep entry.2 = true) :
    left.toList.filter p = right.toList.filter p := by
  have kept : left.filter (fun _ v => keep v) = right.filter (fun _ v => keep v) := by
    apply Std.ExtTreeMap.ext_getElem?
    intro k
    rw [Std.ExtTreeMap.getElem?_filter', Std.ExtTreeMap.getElem?_filter']
    exact same k
  have narrow : ∀ m : OrdMap K V,
      m.toList.filter p = (m.filter fun _ v => keep v).toList.filter p := by
    intro m
    rw [Std.ExtTreeMap.toList_filter, List.filter_filter]
    refine List.filter_congr fun entry _ => ?_
    cases chosen : p entry with
    | false => rfl
    | true => rw [within entry chosen]; rfl
  rw [narrow left, narrow right, kept]

theorem filter_values_congr {left right : OrdMap K V} {keep : V → Bool}
    (same : ∀ k : K, left[k]?.filter keep = right[k]?.filter keep) {p : V → Bool}
    (within : ∀ v, p v = true → keep v = true) :
    (values left).filter p = (values right).filter p := by
  rw [values, values, List.filter_map, List.filter_map,
    filter_toList_congr same (p := p ∘ Prod.snd) fun entry => within entry.2]

/-- Different keys whose records all pass are no more than the records that pass. -/
theorem length_le_filter_values {p : V → Bool} {keys : List K} (distinct : keys.Nodup)
    (chosen : ∀ k ∈ keys, ∃ v, m[k]? = some v ∧ p v = true) :
    keys.length ≤ ((values m).filter p).length := by
  have within : keys ⊆ (m.toList.filter (p ∘ Prod.snd)).map (·.1) := by
    intro k member
    obtain ⟨v, found, passes⟩ := chosen k member
    exact List.mem_map.2 ⟨(k, v), List.mem_filter.2 ⟨mem_toList.2 found, passes⟩, rfl⟩
  have few := (List.subperm_of_subset distinct within).length_le
  rw [List.length_map] at few
  rwa [values, List.filter_map, List.length_map]

/-- One entry of the walk after the record under `k` is rewritten. -/
def rewriteEntry [DecidableEq K] (k : K) (f : V → V) (entry : K × V) : K × V :=
  if entry.1 = k then (entry.1, f entry.2) else entry

theorem rewriteEntry_fst [DecidableEq K] (k : K) (f : V → V) (entry : K × V) :
    (rewriteEntry k f entry).1 = entry.1 := by
  unfold rewriteEntry
  split <;> rfl

/-- **One place.**  Rewriting the record under a key rewrites that entry of the
walk and no other. -/
theorem toList_modify [DecidableEq K] (m : OrdMap K V) (k : K) (f : V → V) :
    (m.modify k f).toList = m.toList.map (rewriteEntry k f) := by
  have keys : (m.toList.map (rewriteEntry k f)).map (·.1) = m.toList.map (·.1) := by
    rw [List.map_map]
    apply List.map_congr_left
    intro entry _
    exact rewriteEntry_fst k f entry
  have nodup : (m.toList.map (rewriteEntry k f)).Nodup := by
    apply List.Nodup.of_map (·.1)
    rw [keys]
    exact nodup_keys m
  have ordered : (m.toList.map (rewriteEntry k f)).Pairwise
      fun a b => compare a.1 b.1 = Ordering.lt := by
    rw [List.pairwise_map]
    refine Std.ExtTreeMap.ordered_keys_toList.imp ?_
    intro a b below
    rw [rewriteEntry_fst, rewriteEntry_fst]
    exact below
  have same : ∀ entry, entry ∈ (m.modify k f).toList ↔
      entry ∈ m.toList.map (rewriteEntry k f) := by
    rintro ⟨k', v⟩
    rw [Std.ExtTreeMap.mem_toList_iff_getElem?_eq_some, List.mem_map]
    by_cases key : k = k'
    · subst key
      rw [get?_modify_self, Option.map_eq_some_iff]
      constructor
      · rintro ⟨w, found, rfl⟩
        exact ⟨(k, w), Std.ExtTreeMap.mem_toList_iff_getElem?_eq_some.2 found,
          by simp [rewriteEntry]⟩
      · rintro ⟨⟨j, w⟩, member, written⟩
        rw [Std.ExtTreeMap.mem_toList_iff_getElem?_eq_some] at member
        have here := rewriteEntry_fst k f (j, w)
        rw [written] at here
        dsimp only at here
        subst here
        simp only [rewriteEntry, if_true, Prod.mk.injEq, true_and] at written
        exact ⟨w, member, written⟩
    · rw [get?_modify_of_ne m f key]
      constructor
      · intro found
        exact ⟨(k', v), Std.ExtTreeMap.mem_toList_iff_getElem?_eq_some.2 found,
          by simp [rewriteEntry, Ne.symm key]⟩
      · rintro ⟨⟨j, w⟩, member, written⟩
        rw [Std.ExtTreeMap.mem_toList_iff_getElem?_eq_some] at member
        have here := rewriteEntry_fst k f (j, w)
        rw [written] at here
        dsimp only at here
        subst here
        rw [rewriteEntry, if_neg (Ne.symm key), Prod.mk.injEq] at written
        rw [← written.2]
        exact member
  refine List.Perm.eq_of_pairwise ?_ Std.ExtTreeMap.ordered_keys_toList ordered
    ((List.perm_ext_iff_of_nodup (nodup_toList _) nodup).2 same)
  intro a b _ _ below above
  exact absurd (Std.OrientedCmp.gt_of_lt below) (by rw [above]; exact Ordering.noConfusion)

/-- A total over the walk moves by what the rewritten entry contributes. -/
theorem sum_toList_modify [DecidableEq K] (m : OrdMap K V) (f : V → V) (charge : K × V → Nat)
    (found : m[k]? = some v) :
    ((m.modify k f).toList.map charge).sum + charge (k, v) =
      (m.toList.map charge).sum + charge (k, f v) := by
  rw [toList_modify, List.map_map]
  have member : (k, v) ∈ m.toList := Std.ExtTreeMap.mem_toList_iff_getElem?_eq_some.2 found
  have distinct := nodup_keys m
  generalize m.toList = entries at member distinct
  induction entries with
  | nil => cases member
  | cons entry rest ih =>
    obtain ⟨absent, distinct⟩ := List.nodup_cons.1 distinct
    simp only [List.map_cons, List.sum_cons, Function.comp_apply]
    rcases List.mem_cons.1 member with rfl | later
    · have untouched : rest.map (charge ∘ rewriteEntry k f) = rest.map charge := by
        apply List.map_congr_left
        intro other here
        have ne : other.1 ≠ k := by
          intro same
          exact absent (List.mem_map.2 ⟨other, here, same⟩)
        simp [rewriteEntry, ne]
      rw [untouched]
      simp only [rewriteEntry, if_true]
      omega
    · have ne : entry.1 ≠ k := by
        intro same
        exact absent (List.mem_map.2 ⟨(k, v), later, same.symm⟩)
      have tail := ih later distinct
      simp only [rewriteEntry, if_neg ne]
      omega

end OrdMap

end YHarness.Lib

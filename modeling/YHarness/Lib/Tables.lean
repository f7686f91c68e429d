/-
# YHarness.Lib.Tables -- two tables of the same entries

A store may keep under other keys what another one keeps, with the same number of
entries of any kind: `length_filter_eq` counts the entries of two tables whose keys
correspond, as far as they are kept.
-/
import YHarness.Lib.OrdMap

namespace YHarness.Lib.OrdMap

set_option autoImplicit false

variable {K V K' V' : Type} [Ord K] [Std.TransOrd K] [Std.LawfulEqOrd K] [Ord K']
  [Std.TransOrd K'] [Std.LawfulEqOrd K']

/-- A map that already says so. -/
theorem insert_eq_self [DecidableEq K] {m : OrdMap K V} {k : K} {v : V}
    (found : m[k]? = some v) : m.insert k v = m := by
  apply Std.ExtTreeMap.ext_getElem?
  intro k'
  by_cases same : k = k'
  · subst same
    rw [get?_insert_self, found]
  · exact get?_insert_of_ne m v same

/-- The keys of one kind, in their order. -/
def keysOf (m : OrdMap K V) (keep : K → Bool) : List K :=
  (m.toList.map (·.1)).filter keep

theorem mem_keysOf {m : OrdMap K V} {keep : K → Bool} {k : K} :
    k ∈ keysOf m keep ↔ (∃ v, m[k]? = some v) ∧ keep k = true := by
  rw [keysOf, List.mem_filter, List.mem_map]
  refine and_congr_left fun _ => ?_
  constructor
  · rintro ⟨⟨k, v⟩, held, rfl⟩
    exact ⟨v, mem_toList.1 held⟩
  · rintro ⟨v, held⟩
    exact ⟨(k, v), mem_toList.2 held, rfl⟩

theorem nodup_keysOf (m : OrdMap K V) (keep : K → Bool) : (keysOf m keep).Nodup :=
  (nodup_keys m).filter _

omit [Std.LawfulEqOrd K] in
theorem length_keysOf (m : OrdMap K V) (keep : K → Bool) :
    (m.toList.filter fun entry => keep entry.1).length = (keysOf m keep).length := by
  rw [keysOf, List.filter_map, List.length_map]
  rfl

/-- **Corresponding tables are equally long.** -/
theorem length_filter_eq {left : OrdMap K V} {right : OrdMap K' V'} {keep : K → Bool}
    {keep' : K' → Bool} (key : K → K')
    (injective : ∀ a ∈ keysOf left keep, ∀ b ∈ keysOf left keep, key a = key b → a = b)
    (maps : ∀ k ∈ keysOf left keep, key k ∈ keysOf right keep')
    (comes : ∀ k' ∈ keysOf right keep', ∃ k ∈ keysOf left keep, key k = k') :
    (left.toList.filter fun entry => keep entry.1).length =
      (right.toList.filter fun entry => keep' entry.1).length := by
  rw [length_keysOf, length_keysOf, ← List.length_map key]
  refine List.Perm.length_eq ((List.perm_ext_iff_of_nodup ?_ (nodup_keysOf right keep')).2 ?_)
  · exact List.Nodup.map_on injective (nodup_keysOf left keep)
  · intro k'
    rw [List.mem_map]
    constructor
    · rintro ⟨k, held, rfl⟩
      exact maps k held
    · exact comes k'

end YHarness.Lib.OrdMap

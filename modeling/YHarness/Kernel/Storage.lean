/-
# YHarness.Kernel.Storage -- keys and columns of the coordinators

The coordinators of Task Graphs, Workflow Runs, Effects and Handoffs keep their
records under a tenant and an identity, in that order.  A table whose primary key
is that pair is an ordered map from keys to rows.
-/
import YHarness.Lib.OrdMap
import YHarness.Kernel.Bounds

namespace YHarness.Kernel

open YHarness.Lib

set_option autoImplicit false

structure StoreKey where
  tenant : String
  id : String
deriving DecidableEq

section Order

attribute [local instance] lexOrd

/-- The fields of a key, the most significant first. -/
abbrev StoreKey.fields (key : StoreKey) : String × String :=
  (key.tenant, key.id)

instance : Ord StoreKey where
  compare := compareOn StoreKey.fields

instance : Std.TransOrd StoreKey :=
  inferInstanceAs (Std.TransCmp (compareOn StoreKey.fields))

instance : Std.LawfulEqOrd StoreKey where
  eq_of_compare {left right} same := by
    have fields : left.fields = right.fields :=
      Std.compare_eq_iff_eq.1 (show compare left.fields right.fields = .eq from same)
    cases left
    cases right
    simp_all [StoreKey.fields]

end Order

/-- The unscoped tenant is stored as the empty text. -/
def tenantStorageKey (tenantId : Option String) : String :=
  tenantId.getD ""

def storageKey (id : String) (tenantId : Option String) : StoreKey :=
  ⟨tenantStorageKey tenantId, id⟩

/-- A tenant that a caller may act for. -/
theorem tenant_ne_empty {tenant : String} (valid : validateTenantId tenant = .ok ()) :
    tenant ≠ "" := by
  rintro rfl
  exact absurd valid (by decide)

/-- Different tenants are stored under different keys. -/
theorem tenantStorageKey_injective {left right : Option String}
    (leftValid : validateTenant left = .ok ()) (rightValid : validateTenant right = .ok ())
    (same : tenantStorageKey left = tenantStorageKey right) : left = right := by
  cases left with
  | none =>
    cases right with
    | none => rfl
    | some tenant => exact absurd same.symm (tenant_ne_empty rightValid)
  | some tenant =>
    cases right with
    | none => exact absurd same (tenant_ne_empty leftValid)
    | some other => exact congrArg some same

/-- `tenant_from_storage_key`. -/
def tenantFromStorageKey (value : String) : Except HarnessError (Option String) :=
  if value = "" then .ok none
  else do
    validateTenantId value
    .ok (some value)

theorem tenantFromStorageKey_storageKey {tenantId : Option String}
    (valid : validateTenant tenantId = .ok ()) :
    tenantFromStorageKey (tenantStorageKey tenantId) = .ok tenantId := by
  cases tenantId with
  | none => rfl
  | some tenant =>
    have admitted : validateTenantId tenant = .ok () := valid
    show tenantFromStorageKey tenant = _
    rw [tenantFromStorageKey, if_neg (tenant_ne_empty admitted)]
    exact seq_eq_ok.2 ⟨admitted, rfl⟩

/-! ## Tenants -/

section Tenants

variable {V : Type}

/-- Two tables have the same records of a tenant. -/
def SameUnder (tenant : String) (left right : OrdMap StoreKey V) : Prop :=
  ∀ key : StoreKey, key.tenant = tenant → left[key]? = right[key]?

theorem SameUnder.refl (tenant : String) (table : OrdMap StoreKey V) : SameUnder tenant table table :=
  fun _ _ => rfl

variable {tenant : String} {left right : OrdMap StoreKey V}

/-- A write under one tenant leaves the records of the others. -/
theorem SameUnder.insert_other (table : OrdMap StoreKey V) {key : StoreKey}
    (other : key.tenant ≠ tenant) (value : V) :
    SameUnder tenant table (table.insert key value) := by
  intro k owner
  have apart : key ≠ k := by
    rintro rfl
    exact other owner
  exact (OrdMap.get?_insert_of_ne table value apart).symm

/-- The same write on both keeps them the same. -/
theorem SameUnder.insert (same : SameUnder tenant left right) (key : StoreKey) (value : V) :
    SameUnder tenant (left.insert key value) (right.insert key value) := by
  intro k owner
  rw [congrFun (OrdMap.get?_insert left key value) k, congrFun (OrdMap.get?_insert right key value) k]
  by_cases written : k = key
  · subst written
    rw [Function.update_self, Function.update_self]
  · rw [Function.update_of_ne written, Function.update_of_ne written]
    exact same k owner

theorem SameUnder.contains (same : SameUnder tenant left right) {key : StoreKey}
    (owner : key.tenant = tenant) :
    left.contains key = right.contains key := by
  rw [Std.ExtTreeMap.contains_eq_isSome_getElem?, Std.ExtTreeMap.contains_eq_isSome_getElem?,
    same key owner]

end Tenants

/-! ## Revisions -/

/-- `revision.checked_add(1)`. -/
def checkedNext (overflow : HarnessError) (revision : UInt64) : Except HarnessError UInt64 :=
  if revision.toNat + 1 < UInt64.size then .ok (revision + 1) else .error overflow

theorem toNat_checkedNext {overflow : HarnessError} {revision next : UInt64}
    (counted : checkedNext overflow revision = .ok next) : next.toNat = revision.toNat + 1 := by
  unfold checkedNext at counted
  split at counted
  · rename_i small
    cases counted
    rw [UInt64.toNat_add, UInt64.toNat_one]
    exact Nat.mod_eq_of_lt small
  · cases counted

/-! ## Columns -/

section Columns

variable {E : Type} {error : E} {value : UInt64}

/-- `i64::try_from` of a number that goes into a column. -/
def i64TryFrom (error : E) (value : UInt64) : Except E Int :=
  if value.toNat < 2 ^ 63 then .ok value.toNat else .error error

/-- `u64::try_from` of a column. -/
def u64TryFrom (error : E) (column : Int) : Except E UInt64 :=
  if 0 ≤ column ∧ column < 2 ^ 63 then .ok (UInt64.ofNat column.toNat) else .error error

theorem i64TryFrom_eq_ok {column : Int} :
    i64TryFrom error value = .ok column ↔ value.toNat < 2 ^ 63 ∧ column = value.toNat := by
  unfold i64TryFrom
  split
  · rename_i small
    rw [ok_eq_ok, and_iff_right small]
  · rename_i large
    exact ⟨nofun, fun both => absurd both.1 large⟩

/-- What was written reads back. -/
theorem u64TryFrom_toNat (small : value.toNat < 2 ^ 63) :
    u64TryFrom error value.toNat = .ok value := by
  have bounds : (0 : Int) ≤ value.toNat ∧ (value.toNat : Int) < 2 ^ 63 := by omega
  rw [u64TryFrom, if_pos bounds, Int.toNat_natCast, UInt64.ofNat_toNat]

/-- A text that fits in its column. -/
theorem rejectIf_fits {maximum bytes : Nat} (fits : bytes ≤ maximum) :
    rejectIf (decide (maximum < bytes)) error = .ok () := by
  rw [rejectIf_decide, not_lt]
  exact fits

end Columns

end YHarness.Kernel

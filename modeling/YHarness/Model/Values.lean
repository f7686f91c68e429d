/-
# YHarness.Model.Values -- what the Model adapters read from JSON values

`serde_json` reads of fields, and the reads that the adapters of `src/model` share up to the
texts of their errors.
-/
import YHarness.Kernel.Fields
import YHarness.Lib.JsonChars
import YHarness.Lib.OrdMap
import YHarness.Runtime.Types

namespace YHarness.Model

open YHarness.Lib YHarness.Kernel YHarness.Runtime
open YHarness.State (maxToolCallsPerBatch)

set_option autoImplicit false

/-! ## Keys of a map -/

section Keys

variable {K V : Type} [Ord K] [Std.TransOrd K] [Std.LawfulEqOrd K] {table : OrdMap K V}
  {keys : List K}

theorem mem_keys {key : K} : key ∈ table.toList.map (·.1) ↔ (table[key]?).isSome = true := by
  rw [List.mem_map, Option.isSome_iff_exists]
  constructor
  · rintro ⟨⟨key, value⟩, member, rfl⟩
    exact ⟨value, OrdMap.mem_toList.1 member⟩
  · rintro ⟨value, found⟩
    exact ⟨(key, value), OrdMap.mem_toList.2 found, rfl⟩

theorem subperm_keys (nodup : keys.Nodup) (inside : ∀ key ∈ keys, (table[key]?).isSome = true) :
    keys.Subperm (table.toList.map (·.1)) :=
  List.subperm_of_subset nodup fun key member => mem_keys.2 (inside key member)

theorem length_le_size (nodup : keys.Nodup) (inside : ∀ key ∈ keys, (table[key]?).isSome = true) :
    keys.length ≤ table.size := by
  have few := (subperm_keys nodup inside).length_le
  rwa [List.length_map, Std.ExtTreeMap.length_toList] at few

/-- As many keys as the table has entries are all its keys. -/
theorem mem_of_size (nodup : keys.Nodup) (inside : ∀ key ∈ keys, (table[key]?).isSome = true)
    (same : keys.length = table.size) {key : K} (held : (table[key]?).isSome = true) :
    key ∈ keys := by
  have perm := (subperm_keys nodup inside).perm_of_length_le (by
    rw [List.length_map, Std.ExtTreeMap.length_toList, same])
  exact perm.mem_iff.2 (mem_keys.2 held)

end Keys

/-! ## JSON values -/

def Json.asObject : Json → Option (List (String × Json))
  | .obj fields => some fields
  | _ => none

def Json.asArray : Json → Option (List Json)
  | .arr values => some values
  | _ => none

def Json.asStr : Json → Option String
  | .str text => some text
  | _ => none

def Json.asU64 : Json → Option UInt64
  | .nat n => if n < UInt64.size then some (UInt64.ofNat n) else none
  | _ => none

/-- `Value::get` of a key. -/
def Json.get (key : String) : Json → Option Json
  | .obj fields => field key fields
  | _ => none

/-- The text under a key. -/
def Json.getStr (key : String) (value : Json) : Option String :=
  (Json.get key value).bind Json.asStr

/-- `Map::insert`; keys are kept in order. -/
def insertField (key : String) (value : Json) : List (String × Json) → List (String × Json)
  | [] => [(key, value)]
  | (name, other) :: rest =>
    if name = key then (key, value) :: rest
    else if key < name then (key, value) :: (name, other) :: rest
    else (name, other) :: insertField key value rest

/-- `format!("{byte:02x}")` of every byte. -/
def hexChars (bytes : List UInt8) : List Char :=
  bytes.flatMap fun byte => [Nat.digitChar (byte.toNat / 16), Nat.digitChar (byte.toNat % 16)]

/-! ## Reads of an adapter -/

section Reads

variable {ε : Type} (fails : String → ε)

/-- `required_string`. -/
def requiredString (fields : List (String × Json)) (name kind : String) : Except ε String :=
  orError (fails s!"{kind} has no non-empty {name}")
    (((field name fields).bind Json.asStr).filter fun value => !value.isEmpty)

/-- `required_unsigned`. -/
def requiredUnsigned (kind : String) (usage : List (String × Json)) (name : String) :
    Except ε UInt64 :=
  orError (fails s!"{kind} has no valid {name}") ((field name usage).bind Json.asU64)

/-- `optional_unsigned`. -/
def optionalUnsigned (kind : String) (usage : List (String × Json)) (name : String) :
    Except ε UInt64 :=
  match field name usage with
  | none => .ok 0
  | some value => orError (fails s!"{kind} {name} is invalid") (Json.asU64 value)

/-- `calls_to_output`. -/
def callsToOutput : List ModelToolCall → Except ε ModelOutput
  | [call] => .ok (.toolCall call.callId call.name call.input)
  | calls => do
    rejectIf (!(decide (2 ≤ calls.length) && decide (calls.length ≤ maxToolCallsPerBatch)))
      (fails "returned an unsupported Tool-call count")
    .ok (.toolCalls calls)

end Reads

end YHarness.Model

/-
# YHarness.Lib.ReadBack -- a JSON value read from its own text

A program that writes a JSON value and reads the text again has, at best, the value with
every object as a map: keys in order, and of a repeated key the last value.  Its number texts
are what the reader made of them, and a reader of fractions need not give back the fraction
it read (`NumberReader`).

* `asMaps_eq_iff`: read as maps, two values are one exactly when they agree up to the order
  of keys at every depth (`SameJson`);
* `lastOf_asMaps`: a field of the read object is the read field;
* `readBack_encode_eq_iff`: two values are read back as values of one text exactly when they
  agree up to the order of keys once every number is what it is read as.
-/
import YHarness.Lib.JsonText
import YHarness.Lib.OrdMap

namespace YHarness.Lib

set_option autoImplicit false

/-! ## The last value of a key -/

section Fields

variable {β : Type} {key : String} {value : β} {entries : List (String × β)}

/-- The value of the last entry with this key. -/
def lastOf (key : String) : List (String × β) → Option β
  | [] => none
  | (k, v) :: rest => (lastOf key rest).or (if k = key then some v else none)

@[simp] theorem lastOf_nil (key : String) : lastOf key ([] : List (String × β)) = none := rfl

@[simp] theorem lastOf_cons (key k : String) (v : β) (rest : List (String × β)) :
    lastOf key ((k, v) :: rest) = (lastOf key rest).or (if k = key then some v else none) := rfl

@[simp] theorem lastOf_append (key : String) (entries more : List (String × β)) :
    lastOf key (entries ++ more) = (lastOf key more).or (lastOf key entries) := by
  induction entries with
  | nil => simp
  | cons entry rest ih =>
    obtain ⟨k, v⟩ := entry
    rw [List.cons_append, lastOf_cons, ih, lastOf_cons, Option.or_assoc]

theorem lastOf_mem (last : lastOf key entries = some value) : (key, value) ∈ entries := by
  induction entries with
  | nil => cases last
  | cons entry rest ih =>
    obtain ⟨k, v⟩ := entry
    rw [lastOf_cons] at last
    cases later : lastOf key rest with
    | some found =>
      rw [later, Option.some_or] at last
      exact List.mem_cons_of_mem _ (ih (later.trans last))
    | none =>
      rw [later, Option.none_or] at last
      split at last
      · rename_i here
        cases last
        exact here ▸ List.mem_cons_self
      · cases last

theorem lastOf_map {γ : Type} (move : β → γ) (entries : List (String × β)) (key : String) :
    lastOf key (entries.map fun entry => (entry.1, move entry.2)) =
      (lastOf key entries).map move := by
  induction entries with
  | nil => rfl
  | cons entry rest ih =>
    obtain ⟨k, v⟩ := entry
    rw [List.map_cons, lastOf_cons, lastOf_cons, ih]
    cases lastOf key rest <;> by_cases here : k = key <;> simp [here]

/-- With distinct keys the last value of a key is its value. -/
theorem lastOf_eq_some (distinct : (entries.map (·.1)).Nodup) :
    lastOf key entries = some value ↔ (key, value) ∈ entries := by
  refine ⟨lastOf_mem, fun member => ?_⟩
  induction entries with
  | nil => cases member
  | cons entry rest ih =>
    obtain ⟨k, v⟩ := entry
    rw [List.map_cons, List.nodup_cons] at distinct
    rcases List.mem_cons.1 member with here | later
    · cases here
      have absent : lastOf key rest = none := by
        rw [Option.eq_none_iff_forall_ne_some]
        exact fun other last => distinct.1 (List.mem_map.2 ⟨(key, other), lastOf_mem last, rfl⟩)
      rw [lastOf_cons, absent, Option.none_or, if_pos rfl]
    · rw [lastOf_cons, ih distinct.2 later, Option.some_or]

/-- The entries collected into a map, in key order. -/
def collect (entries : List (String × β)) : List (String × β) :=
  (Std.ExtTreeMap.ofList entries : OrdMap String β).toList

/-- A collected map holds the last value of every key. -/
theorem getElem?_ofList (entries : List (String × β)) (key : String) :
    (Std.ExtTreeMap.ofList entries : OrdMap String β)[key]? = lastOf key entries := by
  rw [Std.ExtTreeMap.ofList_eq_insertMany_empty, Std.ExtTreeMap.getElem?_insertMany_list,
    Std.ExtTreeMap.getElem?_empty, Option.or_none]
  induction entries with
  | nil => rfl
  | cons entry rest ih =>
    obtain ⟨k, v⟩ := entry
    rw [List.findSomeRev?, ih, lastOf_cons]
    cases lastOf key rest <;> simp

theorem mem_collect : (key, value) ∈ collect entries ↔ lastOf key entries = some value := by
  rw [collect, OrdMap.mem_toList, getElem?_ofList]

theorem collect_nodup (entries : List (String × β)) : ((collect entries).map (·.1)).Nodup :=
  OrdMap.nodup_keys _

theorem lastOf_collect (entries : List (String × β)) (key : String) :
    lastOf key (collect entries) = lastOf key entries := by
  refine Option.ext fun value => ?_
  rw [lastOf_eq_some (collect_nodup entries), mem_collect]

/-- Two lists of entries make one map exactly when they agree on the last value of every
key. -/
theorem collect_eq_iff {left right : List (String × β)} :
    collect left = collect right ↔ ∀ key, lastOf key left = lastOf key right := by
  constructor
  · intro same key
    rw [← lastOf_collect left, same, lastOf_collect]
  · intro same
    have maps : (Std.ExtTreeMap.ofList left : OrdMap String β) = Std.ExtTreeMap.ofList right :=
      Std.ExtTreeMap.ext_getElem? fun key => by
        rw [getElem?_ofList, getElem?_ofList, same]
    rw [collect, maps, collect]

/-- The keys of a map are in order. -/
theorem collect_sorted (entries : List (String × β)) :
    (collect entries).insertionSort (fun a b => a.1 ≤ b.1) = collect entries := by
  refine List.Pairwise.insertionSort_eq ?_
  refine Std.ExtTreeMap.ordered_keys_toList.imp fun {a b} before => ?_
  exact le_of_lt (compare_lt_iff_lt.1 before)

end Fields

/-! ## Values as maps -/

/-- Two JSON values that differ in the order of object keys only.  An object is the map
from its keys to their values; of a repeated key the last value is meant. -/
inductive SameJson : Json → Json → Prop
  | null : SameJson .null .null
  | bool (value : Bool) : SameJson (.bool value) (.bool value)
  | nat (value : Nat) : SameJson (.nat value) (.nat value)
  | num (text : String) : SameJson (.num text) (.num text)
  | str (text : String) : SameJson (.str text) (.str text)
  | arr {vs ws : List Json} (length : vs.length = ws.length)
      (each : ∀ (index : Nat) (v w : Json), vs[index]? = some v → ws[index]? = some w →
        SameJson v w) :
      SameJson (.arr vs) (.arr ws)
  | obj {fs gs : List (String × Json)}
      (keys : ∀ key, (lastOf key fs).isSome = (lastOf key gs).isSome)
      (each : ∀ (key : String) (v w : Json), lastOf key fs = some v → lastOf key gs = some w →
        SameJson v w) :
      SameJson (.obj fs) (.obj gs)

mutual
/-- The value with every object as the map the reader collects its fields into. -/
def asMaps : Json → Json
  | .arr values => .arr (asMapsValues values)
  | .obj fields => .obj (collect (asMapsFields fields))
  | value => value

def asMapsValues : List Json → List Json
  | [] => []
  | v :: vs => asMaps v :: asMapsValues vs

def asMapsFields : List (String × Json) → List (String × Json)
  | [] => []
  | (k, v) :: fs => (k, asMaps v) :: asMapsFields fs
end

theorem asMapsValues_eq (vs : List Json) : asMapsValues vs = vs.map asMaps := by
  induction vs with
  | nil => rfl
  | cons v vs ih => rw [asMapsValues, ih, List.map_cons]

theorem asMapsFields_eq (fs : List (String × Json)) :
    asMapsFields fs = fs.map fun field => (field.1, asMaps field.2) := by
  induction fs with
  | nil => rfl
  | cons field fs ih =>
    obtain ⟨k, v⟩ := field
    rw [asMapsFields, ih, List.map_cons]

/-- A field of the read object is the read field. -/
theorem lastOf_asMaps (fs : List (String × Json)) (key : String) :
    lastOf key (collect (asMapsFields fs)) = (lastOf key fs).map asMaps := by
  rw [lastOf_collect, asMapsFields_eq, lastOf_map]

theorem mem_asMaps {fs : List (String × Json)} {key : String} {w : Json} :
    (key, w) ∈ collect (asMapsFields fs) ↔ ∃ v, lastOf key fs = some v ∧ asMaps v = w := by
  rw [mem_collect, asMapsFields_eq, lastOf_map, Option.map_eq_some_iff]

variable {fs : List (String × Json)} {vs : List Json} {v : Json}

theorem sizeOf_value_lt (member : v ∈ vs) :
    sizeOf v < sizeOf (Json.arr vs) := by
  have small := List.sizeOf_lt_of_mem member
  simp only [Json.arr.sizeOf_spec]
  omega

theorem sizeOf_field_lt {key : String} (member : (key, v) ∈ fs) :
    sizeOf v < sizeOf (Json.obj fs) := by
  have small := List.sizeOf_lt_of_mem member
  simp only [Json.obj.sizeOf_spec, Prod.mk.sizeOf_spec] at small ⊢
  omega

/-- Induction on values: arrays from their elements, objects from their fields. -/
theorem json_induction {motive : Json → Prop} (leaf : ∀ v, (∀ vs, v ≠ .arr vs) →
      (∀ fs, v ≠ .obj fs) → motive v)
    (arr : ∀ vs, (∀ v ∈ vs, motive v) → motive (.arr vs))
    (obj : ∀ fs, (∀ key v, (key, v) ∈ fs → motive v) → motive (.obj fs)) : ∀ v, motive v
  | .arr vs => arr vs fun v member => json_induction leaf arr obj v
  | .obj fs => obj fs fun key v member => json_induction leaf arr obj v
  | .null => leaf _ (by simp) (by simp)
  | .bool _ => leaf _ (by simp) (by simp)
  | .nat _ => leaf _ (by simp) (by simp)
  | .num _ => leaf _ (by simp) (by simp)
  | .str _ => leaf _ (by simp) (by simp)
termination_by v => sizeOf v
decreasing_by
  · exact sizeOf_value_lt member
  · exact sizeOf_field_lt member

theorem asMaps_of_same {a b : Json} (same : SameJson a b) : asMaps a = asMaps b := by
  induction same with
  | null => rfl
  | bool value => rfl
  | nat value => rfl
  | num text => rfl
  | str text => rfl
  | arr length each ih =>
    rename_i vs ws
    rw [asMaps, asMaps, asMapsValues_eq, asMapsValues_eq]
    congr 1
    refine List.ext_getElem (by simpa using length) fun index inLeft inRight => ?_
    rw [List.length_map] at inLeft inRight
    rw [List.getElem_map, List.getElem_map]
    exact ih index _ _ (List.getElem?_eq_getElem inLeft) (List.getElem?_eq_getElem inRight)
  | obj keys each ih =>
    rename_i fs gs
    rw [asMaps, asMaps]
    congr 1
    refine collect_eq_iff.2 fun key => ?_
    rw [asMapsFields_eq, asMapsFields_eq, lastOf_map, lastOf_map]
    have known := keys key
    cases left : lastOf key fs with
    | none =>
      rw [left, Option.isSome_none, eq_comm, Option.isSome_eq_false_iff,
        Option.isNone_iff_eq_none] at known
      rw [known]
    | some v =>
      rw [left, Option.isSome_some, eq_comm, Option.isSome_iff_exists] at known
      obtain ⟨w, right⟩ := known
      rw [right, Option.map_some, Option.map_some, ih key v w left right]

theorem same_of_asMaps : ∀ a b : Json, asMaps a = asMaps b → SameJson a b := by
  intro a
  induction a using json_induction with
  | leaf a notArr notObj =>
    intro b same
    cases a <;> cases b <;> simp only [asMaps, reduceCtorEq, Json.bool.injEq, Json.nat.injEq,
      Json.num.injEq, Json.str.injEq] at same <;> try subst same
    all_goals first
      | exact absurd rfl (notArr _)
      | exact absurd rfl (notObj _)
      | constructor
  | arr vs ih =>
    intro b same
    cases b <;> simp only [asMaps, reduceCtorEq, Json.arr.injEq] at same
    rename_i ws
    rw [asMapsValues_eq, asMapsValues_eq] at same
    refine .arr (by simpa using congrArg List.length same) fun index v w left right => ?_
    refine ih v (List.mem_of_getElem? left) w ?_
    have here := congrArg (·[index]?) same
    simpa [left, right] using here
  | obj fs ih =>
    intro b same
    cases b <;> simp only [asMaps, reduceCtorEq, Json.obj.injEq] at same
    rename_i gs
    have looked : ∀ key, (lastOf key fs).map asMaps = (lastOf key gs).map asMaps := fun key => by
      rw [← lastOf_asMaps, same, lastOf_asMaps]
    refine .obj (fun key => ?_) fun key v w left right => ?_
    · simpa using congrArg Option.isSome (looked key)
    · refine ih key v (lastOf_mem left) w ?_
      simpa [left, right] using looked key

/-- **Values.**  Read as maps, two values are equal exactly when they differ in the order of
keys only. -/
theorem asMaps_eq_iff {a b : Json} : asMaps a = asMaps b ↔ SameJson a b :=
  ⟨same_of_asMaps a b, asMaps_of_same⟩

theorem valuesLexical_iff : ValuesLexical vs ↔ ∀ v ∈ vs, v.Lexical := by
  induction vs with
  | nil => simp [ValuesLexical]
  | cons v vs ih => simp [ValuesLexical, ih]

theorem fieldsLexical_iff :
    FieldsLexical fs ↔ ∀ key v, (key, v) ∈ fs → v.Lexical := by
  induction fs with
  | nil => simp [FieldsLexical]
  | cons field fs ih =>
    obtain ⟨k, v⟩ := field
    simp only [FieldsLexical, ih, List.mem_cons, Prod.mk.injEq]
    constructor
    · rintro ⟨first, later⟩ key w (⟨rfl, rfl⟩ | member)
      · exact first
      · exact later key w member
    · exact fun each => ⟨each k v (.inl ⟨rfl, rfl⟩), fun key w member => each key w (.inr member)⟩

theorem asMaps_lexical : v.Lexical → (asMaps v).Lexical := by
  induction v using json_induction with
  | leaf v notArr notObj =>
    cases v <;> first
      | exact id
      | exact absurd rfl (notArr _)
      | exact absurd rfl (notObj _)
  | arr vs ih =>
    intro lexical
    rw [Json.Lexical, valuesLexical_iff] at lexical
    rw [asMaps, Json.Lexical, valuesLexical_iff, asMapsValues_eq]
    intro w member
    obtain ⟨v, inside, rfl⟩ := List.mem_map.1 member
    exact ih v inside (lexical v inside)
  | obj fs ih =>
    intro lexical
    rw [Json.Lexical, fieldsLexical_iff] at lexical
    rw [asMaps, Json.Lexical, fieldsLexical_iff]
    intro key w member
    obtain ⟨v, last, rfl⟩ := mem_asMaps.1 member
    exact ih key v (lastOf_mem last) (lexical key v (lastOf_mem last))

/-! ## Numbers -/

section Numbers

variable (move : String → String)

mutual
/-- The value with every number text rewritten. -/
def mapNumbers : Json → Json
  | .num text => .num (move text)
  | .arr values => .arr (mapNumbersValues values)
  | .obj fields => .obj (mapNumbersFields fields)
  | value => value

def mapNumbersValues : List Json → List Json
  | [] => []
  | v :: vs => mapNumbers v :: mapNumbersValues vs

def mapNumbersFields : List (String × Json) → List (String × Json)
  | [] => []
  | (k, v) :: fs => (k, mapNumbers v) :: mapNumbersFields fs
end

theorem mapNumbersValues_eq (vs : List Json) :
    mapNumbersValues move vs = vs.map (mapNumbers move) := by
  induction vs with
  | nil => rfl
  | cons v vs ih => rw [mapNumbersValues, ih, List.map_cons]

theorem mapNumbersFields_eq (fs : List (String × Json)) :
    mapNumbersFields move fs = fs.map fun field => (field.1, mapNumbers move field.2) := by
  induction fs with
  | nil => rfl
  | cons field fs ih =>
    obtain ⟨k, v⟩ := field
    rw [mapNumbersFields, ih, List.map_cons]

/-- Values that differ in the order of keys still do when their numbers are rewritten. -/
theorem SameJson.mapNumbers {a b : Json} (same : SameJson a b) :
    SameJson (mapNumbers move a) (mapNumbers move b) := by
  induction same with
  | null => exact .null
  | bool value => exact .bool value
  | nat value => exact .nat value
  | num text => exact .num _
  | str text => exact .str text
  | arr length each ih =>
    rename_i vs ws
    rw [Lib.mapNumbers, Lib.mapNumbers, mapNumbersValues_eq, mapNumbersValues_eq]
    refine .arr (by simpa using length) fun index v w left right => ?_
    rw [List.getElem?_map, Option.map_eq_some_iff] at left right
    obtain ⟨v, left, rfl⟩ := left
    obtain ⟨w, right, rfl⟩ := right
    exact ih index v w left right
  | obj keys each ih =>
    rename_i fs gs
    rw [Lib.mapNumbers, Lib.mapNumbers, mapNumbersFields_eq, mapNumbersFields_eq]
    refine .obj (fun key => ?_) fun key v w left right => ?_
    · rw [lastOf_map, lastOf_map, Option.isSome_map, Option.isSome_map]
      exact keys key
    · rw [lastOf_map, Option.map_eq_some_iff] at left right
      obtain ⟨v, left, rfl⟩ := left
      obtain ⟨w, right, rfl⟩ := right
      exact ih key v w left right

theorem mapNumbers_lexical (numbers : ∀ text, NumberText (move text)) (v : Json) :
    (mapNumbers move v).Lexical := by
  induction v using json_induction with
  | leaf v notArr notObj =>
    cases v <;> first
      | trivial
      | exact numbers _
      | exact absurd rfl (notArr _)
      | exact absurd rfl (notObj _)
  | arr vs ih =>
    rw [mapNumbers, mapNumbersValues_eq, Json.Lexical, valuesLexical_iff]
    exact List.forall_mem_map.2 ih
  | obj fs ih =>
    rw [mapNumbers, mapNumbersFields_eq, Json.Lexical, fieldsLexical_iff]
    intro key w member
    obtain ⟨⟨k, v⟩, inside, same⟩ := List.mem_map.1 member
    cases same
    exact ih k v inside

end Numbers

/-! ## Reading numbers -/

/-- What the JSON library makes of the text of a number that is not an unsigned integer: the
text of such a number again.  How exactly it reads a fraction is its own affair; unsigned
integers it reads as they are. -/
class NumberReader where
  read : String → String
  numberText : ∀ text, NumberText (read text)

/-- A reader that gives every number text back as it was written; any other text is no
number. -/
@[reducible] def exactReader : NumberReader where
  read text :=
    if (utf8Bytes text).all numberByte = true ∧
        (utf8Bytes text).any (fun b => !(48 ≤ b && b ≤ 57)) = true then text
    else "-1"
  numberText text := by
    split
    · rename_i proper
      exact ⟨proper.1, proper.2⟩
    · exact ⟨by decide +kernel, by decide +kernel⟩

/-- A reader that makes one of two neighbouring fractions, and of nothing else anything
else. -/
@[reducible] def fractionReader : NumberReader where
  read text :=
    if text = "0.9452706955539223" then "0.9452706955539224" else exactReader.read text
  numberText text := by
    split
    · exact ⟨by decide +kernel, by decide +kernel⟩
    · exact exactReader.numberText text

section Reading

variable [NumberReader]

/-- The value with every number read again. -/
def readNumbers (value : Json) : Json :=
  mapNumbers NumberReader.read value

/-- The value read from its own text. -/
def readBack (value : Json) : Json :=
  asMaps (readNumbers value)

/-- Every number of the value is read as it was written. -/
def ReadExactly (value : Json) : Prop :=
  readNumbers value = value

instance (value : Json) : Decidable (ReadExactly value) :=
  inferInstanceAs (Decidable (readNumbers value = value))

theorem readBack_lexical (value : Json) : (readBack value).Lexical :=
  asMaps_lexical (mapNumbers_lexical _ NumberReader.numberText value)

/-- **Main theorem.**  Two values are read back as values of one text exactly when, every
number as it is read, they differ in the order of keys only. -/
theorem readBack_encode_eq_iff {a b : Json} :
    (readBack a).encode = (readBack b).encode ↔ SameJson (readNumbers a) (readNumbers b) := by
  rw [← asMaps_eq_iff]
  refine ⟨fun same => ?_, fun same => by rw [readBack, same, readBack]⟩
  exact encode_injective (readBack_lexical a) (readBack_lexical b) same

end Reading

end YHarness.Lib

/-
# YHarness.Lib.Json -- JSON values, their compact encoding and their shape

A value is the tree a JSON library hands to its serializer: objects keep the
order in which their fields are written.  Three measures of a value are defined
by structural recursion:

* `Json.encodedLen`, the number of bytes of the compact encoding, in which a
  string escapes the quote, the backslash and every control character below
  `U+0020`;
* `Json.nodes`, the number of values in the tree;
* `Json.depth`, the length of the longest path below the root.

The lemmas are what a bound on an encoding needs: how the length of an object is
the sum of its fields, and how long an encoded string can get
(`stringLen_le_of_noControl`).
-/
import Mathlib.Data.List.Basic
import Mathlib.Data.Nat.Digits.Defs
import Mathlib.Algebra.BigOperators.Group.List.Basic
import Mathlib.Algebra.Order.BigOperators.Group.List
import Mathlib.Algebra.BigOperators.Ring.List

namespace YHarness.Lib

set_option autoImplicit false

/-- A JSON value.  `nat` is an unsigned integer; `num` is any other number,
given by its encoded text. -/
inductive Json where
  | null
  | bool (value : Bool)
  | nat (value : Nat)
  | num (text : String)
  | str (text : String)
  | arr (values : List Json)
  | obj (fields : List (String × Json))
deriving Inhabited

/-! ## Equality -/

mutual
/-- Structural equality of two values. -/
def Json.beq : Json → Json → Bool
  | .null, .null => true
  | .bool a, .bool b => a == b
  | .nat a, .nat b => a == b
  | .num a, .num b => a == b
  | .str a, .str b => a == b
  | .arr a, .arr b => beqValues a b
  | .obj a, .obj b => beqFields a b
  | _, _ => false

def beqValues : List Json → List Json → Bool
  | [], [] => true
  | a :: as, b :: bs => a.beq b && beqValues as bs
  | _, _ => false

def beqFields : List (String × Json) → List (String × Json) → Bool
  | [], [] => true
  | (k, a) :: as, (l, b) :: bs => k == l && a.beq b && beqFields as bs
  | _, _ => false
end

mutual
theorem Json.beq_iff_eq : ∀ a b : Json, a.beq b = true ↔ a = b
  | .null, b => by cases b <;> simp [Json.beq]
  | .bool a, b => by cases b <;> simp [Json.beq]
  | .nat a, b => by cases b <;> simp [Json.beq]
  | .num a, b => by cases b <;> simp [Json.beq]
  | .str a, b => by cases b <;> simp [Json.beq]
  | .arr a, b => by cases b <;> simp [Json.beq, beqValues_iff_eq a]
  | .obj a, b => by cases b <;> simp [Json.beq, beqFields_iff_eq a]

theorem beqValues_iff_eq : ∀ as bs : List Json, beqValues as bs = true ↔ as = bs
  | [], bs => by cases bs <;> simp [beqValues]
  | a :: as, bs => by
    cases bs <;> simp [beqValues, Json.beq_iff_eq a, beqValues_iff_eq as]

theorem beqFields_iff_eq : ∀ as bs : List (String × Json), beqFields as bs = true ↔ as = bs
  | [], bs => by cases bs <;> simp [beqFields]
  | (k, a) :: as, bs => by
    cases bs with
    | nil => simp [beqFields]
    | cons b bs =>
      obtain ⟨l, b⟩ := b
      simp [beqFields, Json.beq_iff_eq a, beqFields_iff_eq as]
end

instance : DecidableEq Json := fun a b =>
  decidable_of_iff (a.beq b = true) (Json.beq_iff_eq a b)

/-! ## The length of the compact encoding -/

def utf8Bytes (s : String) : List UInt8 := s.toByteArray.data.toList

/-- Bytes one byte of the text takes inside an encoded string.  The quote, the
backslash and five control characters have a two-byte escape, the other control
characters below `U+0020` the six bytes of `\u00XX`. -/
def escapedLen (b : UInt8) : Nat :=
  let n := b.toNat
  if n = 34 ∨ n = 92 ∨ n = 8 ∨ n = 9 ∨ n = 10 ∨ n = 12 ∨ n = 13 then 2
  else if n < 32 then 6
  else 1

/-- Bytes of an encoded string, its quotes included. -/
def stringLen (s : String) : Nat :=
  2 + ((utf8Bytes s).map escapedLen).sum

mutual
/-- Bytes of the compact encoding of a value. -/
def Json.encodedLen : Json → Nat
  | .null => 4
  | .bool b => if b then 4 else 5
  | .nat n => (Nat.toDigits 10 n).length
  | .num text => text.utf8ByteSize
  | .str s => stringLen s
  | .arr values => 2 + (values.length - 1) + valuesLen values
  | .obj fields => 2 + (fields.length - 1) + fieldsLen fields

def valuesLen : List Json → Nat
  | [] => 0
  | v :: vs => v.encodedLen + valuesLen vs

def fieldsLen : List (String × Json) → Nat
  | [] => 0
  | (k, v) :: fs => stringLen k + 1 + v.encodedLen + fieldsLen fs
end

theorem fieldsLen_append (fs gs : List (String × Json)) :
    fieldsLen (fs ++ gs) = fieldsLen fs + fieldsLen gs := by
  induction fs with
  | nil => simp [fieldsLen]
  | cons f fs ih =>
    obtain ⟨key, value⟩ := f
    rw [List.cons_append, fieldsLen, fieldsLen, ih]
    omega

theorem valuesLen_append (vs ws : List Json) :
    valuesLen (vs ++ ws) = valuesLen vs + valuesLen ws := by
  induction vs with
  | nil => simp [valuesLen]
  | cons v vs ih =>
    rw [List.cons_append, valuesLen, valuesLen, ih]
    omega

/-! ## The shape of a value -/

mutual
/-- The number of values in the tree. -/
def Json.nodes : Json → Nat
  | .arr values => 1 + valuesNodes values
  | .obj fields => 1 + fieldsNodes fields
  | _ => 1

def valuesNodes : List Json → Nat
  | [] => 0
  | v :: vs => v.nodes + valuesNodes vs

def fieldsNodes : List (String × Json) → Nat
  | [] => 0
  | (_, v) :: fs => v.nodes + fieldsNodes fs
end

mutual
/-- The length of the longest path below the root. -/
def Json.depth : Json → Nat
  | .arr values => valuesDepth values
  | .obj fields => fieldsDepth fields
  | _ => 0

/-- The depth of a container of these values: one more than the deepest. -/
def valuesDepth : List Json → Nat
  | [] => 0
  | v :: vs => max (v.depth + 1) (valuesDepth vs)

def fieldsDepth : List (String × Json) → Nat
  | [] => 0
  | (_, v) :: fs => max (v.depth + 1) (fieldsDepth fs)
end

theorem fieldsNodes_eq (fields : List (String × Json)) :
    fieldsNodes fields = valuesNodes (fields.map (·.2)) := by
  induction fields with
  | nil => rfl
  | cons f fs ih => obtain ⟨k, v⟩ := f; simp [fieldsNodes, valuesNodes, ih]

theorem fieldsDepth_eq (fields : List (String × Json)) :
    fieldsDepth fields = valuesDepth (fields.map (·.2)) := by
  induction fields with
  | nil => rfl
  | cons f fs ih => obtain ⟨k, v⟩ := f; simp [fieldsDepth, valuesDepth, ih]

@[simp] theorem valuesNodes_append (vs ws : List Json) :
    valuesNodes (vs ++ ws) = valuesNodes vs + valuesNodes ws := by
  induction vs with
  | nil => simp [valuesNodes]
  | cons v vs ih => simp only [List.cons_append, valuesNodes, ih]; omega

theorem Json.nodes_pos (v : Json) : 0 < v.nodes := by
  cases v <;> simp only [Json.nodes] <;> omega

theorem length_le_valuesNodes (vs : List Json) : vs.length ≤ valuesNodes vs := by
  induction vs with
  | nil => simp
  | cons v vs ih =>
    have := v.nodes_pos
    simp only [List.length_cons, valuesNodes]
    omega

/-! ## Bounds on encoded strings and numbers -/

/-- A control character: the Unicode general category `Cc`. -/
def isControl (c : Char) : Bool :=
  c.val < 32 || (127 ≤ c.val && c.val ≤ 159)

theorem not_isControl {c : Char} (low : 32 ≤ c.val.toNat) (high : c.val.toNat < 127) :
    isControl c = false := by
  simp only [isControl, Bool.or_eq_false_iff, Bool.and_eq_false_iff, decide_eq_false_iff_not,
    UInt32.le_iff_toNat_le, UInt32.lt_iff_toNat_lt, UInt32.reduceToNat]
  omega

theorem utf8Bytes_eq (s : String) : utf8Bytes s = s.toList.flatMap String.utf8EncodeChar := by
  rw [utf8Bytes, ← String.utf8Encode_toList, List.utf8Encode, List.data_toByteArray]

theorem utf8Bytes_length (s : String) : (utf8Bytes s).length = s.utf8ByteSize := by
  rw [utf8Bytes, Array.length_toList]
  rfl

/-- A byte below 128 is the code of its character: all bytes of a longer
sequence are at least 128. -/
theorem ascii_of_byte {c : Char} {b : UInt8} (member : b ∈ String.utf8EncodeChar c)
    (low : b.toNat < 128) : b.toNat = c.val.toNat := by
  dsimp only [String.utf8EncodeChar] at member
  split at member
  · rw [List.mem_singleton] at member
    subst member
    exact UInt8.toNat_ofNat_of_lt' (by simp only [UInt8.size]; omega)
  · split at member
    · simp only [List.mem_cons, List.not_mem_nil, or_false] at member
      rcases member with rfl | rfl <;>
        rw [UInt8.toNat_ofNat_of_lt' (by simp only [UInt8.size]; omega)] at low <;> omega
    · split at member
      · simp only [List.mem_cons, List.not_mem_nil, or_false] at member
        rcases member with rfl | rfl | rfl <;>
          rw [UInt8.toNat_ofNat_of_lt' (by simp only [UInt8.size]; omega)] at low <;> omega
      · simp only [List.mem_cons, List.not_mem_nil, or_false] at member
        rcases member with rfl | rfl | rfl | rfl <;>
          rw [UInt8.toNat_ofNat_of_lt' (by simp only [UInt8.size]; omega)] at low <;> omega

theorem control_of_byte {c : Char} {b : UInt8} (member : b ∈ String.utf8EncodeChar c)
    (low : b.toNat < 32) : isControl c = true := by
  have code := ascii_of_byte member (by omega)
  simp only [isControl, Bool.or_eq_true, decide_eq_true_eq]
  exact .inl (show c.val.toNat < 32 by omega)

/-- Without control characters, an encoded string takes at most two bytes for
each byte of the text. -/
theorem stringLen_le_of_noControl {s : String} (plain : s.toList.any isControl = false) :
    stringLen s ≤ 2 + 2 * s.utf8ByteSize := by
  have small : ∀ b ∈ utf8Bytes s, escapedLen b ≤ 2 := by
    intro b member
    rw [utf8Bytes_eq, List.mem_flatMap] at member
    obtain ⟨c, c_member, b_member⟩ := member
    rw [List.any_eq_false] at plain
    have high : ¬ b.toNat < 32 := fun low => plain c c_member (control_of_byte b_member low)
    unfold escapedLen
    dsimp only
    split <;> omega
  have total : ((utf8Bytes s).map escapedLen).sum ≤ ((utf8Bytes s).map fun _ => 2).sum :=
    List.sum_le_sum small
  rw [List.map_const', List.sum_replicate_nat, utf8Bytes_length] at total
  unfold stringLen
  omega

/-- Every byte of a text takes at most six bytes. -/
theorem stringLen_le (s : String) : stringLen s ≤ 2 + 6 * s.utf8ByteSize := by
  have small : ∀ b ∈ utf8Bytes s, escapedLen b ≤ 6 := by
    intro b _
    unfold escapedLen
    dsimp only
    split <;> [omega; (split <;> omega)]
  have total : ((utf8Bytes s).map escapedLen).sum ≤ ((utf8Bytes s).map fun _ => 6).sum :=
    List.sum_le_sum small
  rw [List.map_const', List.sum_replicate_nat, utf8Bytes_length] at total
  unfold stringLen
  omega

theorem valuesLen_le {values : List Json} {n : Nat}
    (short : ∀ value ∈ values, value.encodedLen ≤ n) : valuesLen values ≤ values.length * n := by
  induction values with
  | nil => simp [valuesLen]
  | cons value rest ih =>
    have first := short value (List.mem_cons_self ..)
    have others := ih fun value member => short value (List.mem_cons_of_mem _ member)
    rw [List.length_cons, valuesLen, Nat.succ_mul]
    omega

/-- A 64-bit unsigned integer takes at most twenty digits. -/
theorem toDigits_length_le {n : Nat} (bounded : n < 2 ^ 64) :
    (Nat.toDigits 10 n).length ≤ 20 := by
  rw [Nat.length_toDigits_le_iff (by decide) (by decide)]
  omega

end YHarness.Lib

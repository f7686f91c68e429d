/-
# YHarness.Lib.JsonText -- the compact encoding as bytes, and why it reads one way

`Json.encode` is the text whose length `Json.encodedLen` measures (`encode_length`).  A
value whose number texts are number texts (`Json.Lexical`) is read from it in one way:
after its encoding comes something that cannot extend a number, and then both the value and
what follows are determined (`encode_cancel`, `encode_injective`).
-/
import YHarness.Lib.Json

namespace YHarness.Lib

set_option autoImplicit false

/-! ## Bytes -/

def hexDigit (n : Nat) : UInt8 := UInt8.ofNat (if n < 10 then 48 + n else 87 + n)

/-- One byte of a text inside an encoded string. -/
def escapeByte (b : UInt8) : List UInt8 :=
  let n := b.toNat
  if n = 34 then [92, 34]
  else if n = 92 then [92, 92]
  else if n = 8 then [92, 98]
  else if n = 9 then [92, 116]
  else if n = 10 then [92, 110]
  else if n = 12 then [92, 102]
  else if n = 13 then [92, 114]
  else if n < 32 then [92, 117, 48, 48, hexDigit (n / 16), hexDigit (n % 16)]
  else [b]

def stringBytes (s : String) : List UInt8 :=
  34 :: ((utf8Bytes s).flatMap escapeByte ++ [34])

def natBytes (n : Nat) : List UInt8 :=
  (Nat.toDigits 10 n).map fun c => UInt8.ofNat c.toNat

mutual
/-- The compact encoding of a value. -/
def Json.encode : Json → List UInt8
  | .null => [110, 117, 108, 108]
  | .bool true => [116, 114, 117, 101]
  | .bool false => [102, 97, 108, 115, 101]
  | .nat n => natBytes n
  | .num text => utf8Bytes text
  | .str s => stringBytes s
  | .arr [] => [91, 93]
  | .arr (v :: vs) => 91 :: (v.encode ++ moreValues vs)
  | .obj [] => [123, 125]
  | .obj ((k, v) :: fs) => 123 :: (stringBytes k ++ 58 :: (v.encode ++ moreFields fs))

def moreValues : List Json → List UInt8
  | [] => [93]
  | v :: vs => 44 :: (v.encode ++ moreValues vs)

def moreFields : List (String × Json) → List UInt8
  | [] => [125]
  | (k, v) :: fs => 44 :: (stringBytes k ++ 58 :: (v.encode ++ moreFields fs))
end

theorem escapeByte_length (b : UInt8) : (escapeByte b).length = escapedLen b := by
  simp only [escapeByte, escapedLen]
  split_ifs <;> simp only [List.length_cons, List.length_nil] <;> omega

theorem stringBytes_length (s : String) : (stringBytes s).length = stringLen s := by
  rw [stringBytes, stringLen, List.length_cons, List.length_append, List.length_flatMap]
  rw [List.length_singleton, show (fun b => (escapeByte b).length) = escapedLen from
    funext escapeByte_length]
  omega

mutual
theorem encode_length : ∀ v : Json, v.encode.length = v.encodedLen
  | .null => rfl
  | .bool true => rfl
  | .bool false => rfl
  | .nat n => by simp [Json.encode, natBytes, Json.encodedLen]
  | .num text => utf8Bytes_length text
  | .str s => stringBytes_length s
  | .arr [] => rfl
  | .arr (v :: vs) => by
    simp only [Json.encode, Json.encodedLen, List.length_cons, List.length_append,
      encode_length v, moreValues_length vs, valuesLen]
    omega
  | .obj [] => rfl
  | .obj ((k, v) :: fs) => by
    simp only [Json.encode, Json.encodedLen, List.length_cons, List.length_append,
      stringBytes_length, encode_length v, moreFields_length fs, fieldsLen]
    omega

theorem moreValues_length : ∀ vs : List Json,
    (moreValues vs).length = vs.length + 1 + valuesLen vs
  | [] => rfl
  | v :: vs => by
    simp only [moreValues, List.length_cons, List.length_append, encode_length v,
      moreValues_length vs, valuesLen]
    omega

theorem moreFields_length : ∀ fs : List (String × Json),
    (moreFields fs).length = fs.length + 1 + fieldsLen fs
  | [] => rfl
  | (k, v) :: fs => by
    simp only [moreFields, List.length_cons, List.length_append, stringBytes_length,
      encode_length v, moreFields_length fs, fieldsLen]
    omega
end

/-! ## Texts -/

theorem utf8Bytes_injective {s t : String} (same : utf8Bytes s = utf8Bytes t) : s = t := by
  have arrays : s.toByteArray.data = t.toByteArray.data := Array.toList_inj.1 same
  exact String.toByteArray_inj.1 (ByteArray.ext arrays)

/-- The byte an escape stands for, and what follows it. -/
def unescape : List UInt8 → Option (UInt8 × List UInt8)
  | 92 :: 117 :: _ :: _ :: high :: low :: rest =>
    some ((high - 48) * 16 + (if low < 58 then low - 48 else low - 87), rest)
  | 92 :: 98 :: rest => some (8, rest)
  | 92 :: 116 :: rest => some (9, rest)
  | 92 :: 110 :: rest => some (10, rest)
  | 92 :: 102 :: rest => some (12, rest)
  | 92 :: 114 :: rest => some (13, rest)
  | 92 :: b :: rest => some (b, rest)
  | b :: rest => some (b, rest)
  | [] => none

theorem unescape_control : ∀ n < 32,
    (hexDigit (n / 16) - 48) * 16 + (if hexDigit (n % 16) < 58 then hexDigit (n % 16) - 48
      else hexDigit (n % 16) - 87) = UInt8.ofNat n := by
  decide

theorem unescape_plain {b : UInt8} (plain : b ≠ 92) (rest : List UInt8) :
    unescape (b :: rest) = some (b, rest) := by
  unfold unescape
  split <;> simp_all

theorem unescape_escapeByte (b : UInt8) (rest : List UInt8) :
    unescape (escapeByte b ++ rest) = some (b, rest) := by
  have known : ∀ n : Nat, b.toNat = n → b = UInt8.ofNat n := fun n same => by
    rw [← same, UInt8.ofNat_toNat]
  simp only [escapeByte]
  split_ifs with h34 h92 h8 h9 h10 h12 h13 low
  · rw [known _ h34]; rfl
  · rw [known _ h92]; rfl
  · rw [known _ h8]; rfl
  · rw [known _ h9]; rfl
  · rw [known _ h10]; rfl
  · rw [known _ h12]; rfl
  · rw [known _ h13]; rfl
  · simp only [List.cons_append, List.nil_append, unescape]
    rw [unescape_control _ low, UInt8.ofNat_toNat]
  · have plain : b ≠ 92 := fun same => h92 (by rw [same]; rfl)
    simp only [List.cons_append, List.nil_append]
    exact unescape_plain plain rest

variable {r s : List UInt8}

/-- An escape and what follows it determine the byte and what follows. -/
theorem escapeByte_cancel {b c : UInt8} (same : escapeByte b ++ r = escapeByte c ++ s) :
    b = c ∧ r = s := by
  have read := unescape_escapeByte b r
  rw [same, unescape_escapeByte] at read
  simpa [eq_comm] using read

/-- An escape does not begin as the closing quote does. -/
theorem escapeByte_ne (b : UInt8) (r s : List UInt8) : escapeByte b ++ r ≠ 34 :: s := by
  intro same
  simp only [escapeByte] at same
  split_ifs at same with h34
  case neg =>
    have quote : b = 34 := (List.cons.inj same).1
    exact h34 (by rw [quote]; rfl)
  all_goals exact absurd (List.cons.inj same).1 (by decide)

theorem escaped_cancel {bs cs r s : List UInt8}
    (same : bs.flatMap escapeByte ++ 34 :: r = cs.flatMap escapeByte ++ 34 :: s) :
    bs = cs ∧ r = s := by
  induction bs generalizing cs with
  | nil =>
    cases cs with
    | nil => simpa using same
    | cons c cs =>
      simp only [List.flatMap_nil, List.nil_append, List.flatMap_cons, List.append_assoc] at same
      exact absurd same.symm (escapeByte_ne c _ _)
  | cons b bs ih =>
    cases cs with
    | nil =>
      simp only [List.flatMap_nil, List.nil_append, List.flatMap_cons, List.append_assoc] at same
      exact absurd same (escapeByte_ne b _ _)
    | cons c cs =>
      simp only [List.flatMap_cons, List.append_assoc] at same
      obtain ⟨rfl, rest⟩ := escapeByte_cancel same
      obtain ⟨rfl, tail⟩ := ih rest
      exact ⟨rfl, tail⟩

/-- An encoded string and what follows it determine the text and what follows. -/
theorem stringBytes_cancel {x y : String} (same : stringBytes x ++ r = stringBytes y ++ s) :
    x = y ∧ r = s := by
  simp only [stringBytes, List.cons_append, List.append_assoc, List.cons.injEq, true_and,
    List.nil_append] at same
  obtain ⟨texts, rest⟩ := escaped_cancel same
  exact ⟨utf8Bytes_injective texts, rest⟩

/-! ## Numbers -/

/-- A byte of a number: a digit, a sign, the point or the exponent mark. -/
def numberByte (b : UInt8) : Bool :=
  (48 ≤ b && b ≤ 57) || b == 43 || b == 45 || b == 46 || b == 69 || b == 101

/-- The text of a number that is not an unsigned integer. -/
structure NumberText (text : String) : Prop where
  bytes : (utf8Bytes text).all numberByte = true
  other : (utf8Bytes text).any (fun b => !(48 ≤ b && b ≤ 57)) = true

/-- What follows cannot extend a number. -/
def Ends (rest : List UInt8) : Prop := ∀ b ∈ rest.head?, numberByte b = false

theorem digit_toNat {n : Nat} {c : Char} (digit : c ∈ Nat.toDigits 10 n) :
    48 ≤ c.toNat ∧ c.toNat ≤ 57 := by
  have read := Nat.isDigit_of_mem_toDigits (by omega) (by omega) digit
  simp only [Char.isDigit, Bool.and_eq_true, decide_eq_true_eq, ge_iff_le,
    UInt32.le_iff_toNat_le] at read
  exact read

theorem digit_byte {n : Nat} {b : UInt8} (member : b ∈ natBytes n) :
    (48 ≤ b && b ≤ 57) = true := by
  obtain ⟨c, digit, rfl⟩ := List.mem_map.1 member
  obtain ⟨above, below⟩ := digit_toNat digit
  simp only [Bool.and_eq_true, decide_eq_true_eq, UInt8.le_iff_toNat_le]
  rw [UInt8.toNat_ofNat_of_lt' (by simp only [UInt8.size]; omega)]
  exact ⟨above, below⟩

theorem natBytes_injective {m n : Nat} (same : natBytes m = natBytes n) : m = n := by
  have back : ∀ k, (natBytes k).map (fun b => Char.ofNat b.toNat) = Nat.toDigits 10 k := fun k => by
    rw [natBytes, List.map_map]
    refine (List.map_congr_left fun c digit => ?_).trans (List.map_id _)
    obtain ⟨_, below⟩ := digit_toNat digit
    rw [Function.comp_apply, UInt8.toNat_ofNat_of_lt' (by simp only [UInt8.size]; omega),
      Char.ofNat_toNat, id]
  have digits := congrArg (List.map fun b => Char.ofNat b.toNat) same
  rw [back, back] at digits
  have number := congrArg (fun cs => Nat.ofDigitChars 10 cs 0) digits
  simpa using number

/-- The longest run of number bytes is the number. -/
theorem number_cancel {xs ys r s : List UInt8} (left : xs.all numberByte = true)
    (right : ys.all numberByte = true) (rEnds : Ends r) (sEnds : Ends s)
    (same : xs ++ r = ys ++ s) : xs = ys ∧ r = s := by
  induction xs generalizing ys with
  | nil =>
    cases ys with
    | nil => exact ⟨rfl, same⟩
    | cons y ys =>
      rw [List.nil_append] at same
      have stop := rEnds y (by rw [same]; rfl)
      simp [stop] at right
  | cons x xs ih =>
    cases ys with
    | nil =>
      rw [List.nil_append] at same
      have stop := sEnds x (by rw [← same]; rfl)
      simp [stop] at left
    | cons y ys =>
      obtain ⟨rfl, rest⟩ := List.cons.inj same
      rw [List.all_cons, Bool.and_eq_true] at left right
      obtain ⟨rfl, tail⟩ := ih left.2 right.2 rest
      exact ⟨rfl, tail⟩

/-! ## Values -/

mutual
/-- Every number text in the value is a number text. -/
def Json.Lexical : Json → Prop
  | .num text => NumberText text
  | .arr values => ValuesLexical values
  | .obj fields => FieldsLexical fields
  | _ => True

def ValuesLexical : List Json → Prop
  | [] => True
  | v :: vs => v.Lexical ∧ ValuesLexical vs

def FieldsLexical : List (String × Json) → Prop
  | [] => True
  | (_, v) :: fs => v.Lexical ∧ FieldsLexical fs
end

/-- The kinds of value that their first byte tells apart. -/
inductive JsonKind where
  | null | yes | no | number | string | array | object

def Json.kind : Json → JsonKind
  | .null => .null
  | .bool true => .yes
  | .bool false => .no
  | .nat _ | .num _ => .number
  | .str _ => .string
  | .arr _ => .array
  | .obj _ => .object

/-- The kind a first byte announces. -/
def kindOf (b : UInt8) : Option JsonKind :=
  if numberByte b then some .number
  else if b = 110 then some .null
  else if b = 116 then some .yes
  else if b = 102 then some .no
  else if b = 34 then some .string
  else if b = 91 then some .array
  else if b = 123 then some .object
  else none

theorem natBytes_number (n : Nat) : (natBytes n).all numberByte = true := by
  rw [List.all_eq_true]
  intro b member
  simp [numberByte, digit_byte member]

theorem natBytes_ne_nil (n : Nat) : natBytes n ≠ [] := by
  rw [natBytes, Ne, List.map_eq_nil_iff]
  exact Nat.toDigits_ne_nil

theorem number_head {bytes : List UInt8} (numbers : bytes.all numberByte = true)
    (full : bytes ≠ []) : ∃ b rest, bytes = b :: rest ∧ kindOf b = some .number := by
  cases bytes with
  | nil => exact absurd rfl full
  | cons b rest =>
    rw [List.all_cons, Bool.and_eq_true] at numbers
    exact ⟨b, rest, rfl, by rw [kindOf, if_pos numbers.1]⟩

/-- The first byte of an encoding tells the kind of its value. -/
theorem encode_head {v : Json} (lexical : v.Lexical) :
    ∃ b rest, v.encode = b :: rest ∧ kindOf b = some v.kind := by
  match v with
  | .null => exact ⟨_, _, rfl, rfl⟩
  | .bool true => exact ⟨_, _, rfl, rfl⟩
  | .bool false => exact ⟨_, _, rfl, rfl⟩
  | .nat n => exact number_head (natBytes_number n) (natBytes_ne_nil n)
  | .num text =>
    have number : NumberText text := lexical
    refine number_head number.bytes fun empty => ?_
    have other := number.other
    rw [show utf8Bytes text = [] from empty] at other
    cases other
  | .str s => exact ⟨_, _, rfl, rfl⟩
  | .arr [] => exact ⟨_, _, rfl, rfl⟩
  | .arr (v :: vs) => exact ⟨_, _, rfl, rfl⟩
  | .obj [] => exact ⟨_, _, rfl, rfl⟩
  | .obj ((k, v) :: fs) => exact ⟨_, _, rfl, rfl⟩

theorem kind_of_same {a b : Json} (left : a.Lexical) (right : b.Lexical)
    (same : a.encode ++ r = b.encode ++ s) : a.kind = b.kind := by
  obtain ⟨x, xs, leftBytes, leftKind⟩ := encode_head left
  obtain ⟨y, ys, rightBytes, rightKind⟩ := encode_head right
  rw [leftBytes, rightBytes, List.cons_append, List.cons_append] at same
  rw [(List.cons.inj same).1, rightKind] at leftKind
  exact (Option.some.inj leftKind).symm

/-- No value begins as a list ends. -/
theorem encode_ne {v : Json} (lexical : v.Lexical) {b : UInt8} (closing : kindOf b = none) :
    v.encode ++ r ≠ b :: s := by
  obtain ⟨x, xs, bytes, kind⟩ := encode_head lexical
  intro same
  rw [bytes, List.cons_append] at same
  rw [(List.cons.inj same).1, closing] at kind
  cases kind

theorem moreValues_ends (vs : List Json) (r : List UInt8) : Ends (moreValues vs ++ r) := by
  intro b head
  cases vs <;> simp only [moreValues, List.cons_append, List.head?_cons, Option.mem_def,
    Option.some.injEq] at head <;> subst head <;> decide

theorem moreFields_ends (fs : List (String × Json)) (r : List UInt8) :
    Ends (moreFields fs ++ r) := by
  intro b head
  rcases fs with _ | ⟨⟨k, v⟩, fs⟩ <;> simp only [moreFields, List.cons_append, List.head?_cons,
    Option.mem_def, Option.some.injEq] at head <;> subst head <;> decide

/-- Two numbers with one encoding are one number. -/
theorem numbers_eq {a b : Json} (left : a.Lexical) (right : b.Lexical) (number : a.kind = .number)
    (numberB : b.kind = .number) (rEnds : Ends r) (sEnds : Ends s)
    (same : a.encode ++ r = b.encode ++ s) : a = b ∧ r = s := by
  have clash : ∀ {n : Nat} {text : String}, NumberText text → natBytes n ≠ utf8Bytes text := by
    intro n text proper same
    have other := proper.other
    rw [← same, List.any_eq_true] at other
    obtain ⟨b, member, odd⟩ := other
    rw [digit_byte member] at odd
    cases odd
  match a, b with
  | .nat m, .nat n =>
    obtain ⟨bytes, rest⟩ := number_cancel (natBytes_number m) (natBytes_number n) rEnds sEnds same
    exact ⟨congrArg Json.nat (natBytes_injective bytes), rest⟩
  | .nat m, .num text =>
    have proper : NumberText text := right
    obtain ⟨bytes, _⟩ := number_cancel (natBytes_number m) proper.bytes rEnds sEnds same
    exact absurd bytes (clash proper)
  | .num text, .nat n =>
    have proper : NumberText text := left
    obtain ⟨bytes, _⟩ := number_cancel proper.bytes (natBytes_number n) rEnds sEnds same
    exact absurd bytes.symm (clash proper)
  | .num x, .num y =>
    have properX : NumberText x := left
    have properY : NumberText y := right
    obtain ⟨bytes, rest⟩ := number_cancel properX.bytes properY.bytes rEnds sEnds same
    exact ⟨congrArg Json.num (utf8Bytes_injective bytes), rest⟩

mutual
/-- **Reading.**  The encoding of a value and what follows it, if that cannot extend a number,
determine the value and what follows. -/
theorem encode_cancel : ∀ (a b : Json) {r s : List UInt8}, a.Lexical → b.Lexical → Ends r →
    Ends s → a.encode ++ r = b.encode ++ s → a = b ∧ r = s
  | .null, b, r, s, left, right, _, _, same => by
    have kinds := kind_of_same left right same
    cases b with
    | null => exact ⟨rfl, List.append_cancel_left same⟩
    | bool y => cases y <;> cases kinds
    | _ => cases kinds
  | .bool x, b, r, s, left, right, _, _, same => by
    have kinds := kind_of_same left right same
    cases b with
    | bool y =>
      cases x <;> cases y <;> first
        | exact ⟨rfl, List.append_cancel_left same⟩
        | cases kinds
    | _ => cases x <;> cases kinds
  | .nat n, b, r, s, left, right, rEnds, sEnds, same =>
    numbers_eq left right rfl (kind_of_same left right same).symm rEnds sEnds same
  | .num text, b, r, s, left, right, rEnds, sEnds, same =>
    numbers_eq left right rfl (kind_of_same left right same).symm rEnds sEnds same
  | .str x, b, r, s, left, right, _, _, same => by
    have kinds := kind_of_same left right same
    cases b with
    | str y =>
      obtain ⟨rfl, rest⟩ := stringBytes_cancel same
      exact ⟨rfl, rest⟩
    | bool y => cases y <;> cases kinds
    | _ => cases kinds
  | .arr [], b, r, s, left, right, _, _, same => by
    have kinds := kind_of_same left right same
    cases b with
    | arr ws =>
      cases ws with
      | nil => exact ⟨rfl, List.append_cancel_left same⟩
      | cons w ws =>
        simp only [Json.encode, List.cons_append, List.cons.injEq, true_and,
          List.append_assoc] at same
        exact absurd same.symm (encode_ne right.1 rfl)
    | bool y => cases y <;> cases kinds
    | _ => cases kinds
  | .arr (v :: vs), b, r, s, left, right, _, _, same => by
    have kinds := kind_of_same left right same
    cases b with
    | arr ws =>
      cases ws with
      | nil =>
        simp only [Json.encode, List.cons_append, List.cons.injEq, true_and,
          List.append_assoc] at same
        exact absurd same (encode_ne left.1 rfl)
      | cons w ws =>
        simp only [Json.encode, List.cons_append, List.cons.injEq, true_and,
          List.append_assoc] at same
        obtain ⟨rfl, more⟩ := encode_cancel v w left.1 right.1 (moreValues_ends vs r)
          (moreValues_ends ws s) same
        obtain ⟨rfl, rest⟩ := moreValues_cancel vs ws left.2 right.2 more
        exact ⟨rfl, rest⟩
    | bool y => cases y <;> cases kinds
    | _ => cases kinds
  | .obj [], b, r, s, left, right, _, _, same => by
    have kinds := kind_of_same left right same
    cases b with
    | obj gs =>
      cases gs with
      | nil => exact ⟨rfl, List.append_cancel_left same⟩
      | cons g gs =>
        simp only [Json.encode, stringBytes, List.cons_append, List.cons.injEq, true_and] at same
        exact absurd same.1 (by decide)
    | bool y => cases y <;> cases kinds
    | _ => cases kinds
  | .obj ((k, v) :: fs), b, r, s, left, right, _, _, same => by
    have kinds := kind_of_same left right same
    cases b with
    | obj gs =>
      rcases gs with _ | ⟨⟨l, w⟩, gs⟩
      · simp only [Json.encode, stringBytes, List.cons_append, List.cons.injEq, true_and] at same
        exact absurd same.1 (by decide)
      · simp only [Json.encode, List.cons_append, List.cons.injEq, true_and,
          List.append_assoc] at same
        obtain ⟨rfl, value⟩ := stringBytes_cancel same
        obtain ⟨rfl, more⟩ := encode_cancel v w left.1 right.1 (moreFields_ends fs r)
          (moreFields_ends gs s) (List.cons.inj value).2
        obtain ⟨rfl, rest⟩ := moreFields_cancel fs gs left.2 right.2 more
        exact ⟨rfl, rest⟩
    | bool y => cases y <;> cases kinds
    | _ => cases kinds

theorem moreValues_cancel : ∀ (vs ws : List Json) {r s : List UInt8}, ValuesLexical vs →
    ValuesLexical ws → moreValues vs ++ r = moreValues ws ++ s → vs = ws ∧ r = s
  | [], [], r, s, _, _, same => ⟨rfl, List.append_cancel_left same⟩
  | [], w :: ws, r, s, _, _, same => absurd (List.cons.inj same).1 (by decide)
  | v :: vs, [], r, s, _, _, same => absurd (List.cons.inj same).1 (by decide)
  | v :: vs, w :: ws, r, s, left, right, same => by
    simp only [moreValues, List.cons_append, List.cons.injEq, true_and, List.append_assoc] at same
    obtain ⟨rfl, more⟩ := encode_cancel v w left.1 right.1 (moreValues_ends vs r)
      (moreValues_ends ws s) same
    obtain ⟨rfl, rest⟩ := moreValues_cancel vs ws left.2 right.2 more
    exact ⟨rfl, rest⟩

theorem moreFields_cancel : ∀ (fs gs : List (String × Json)) {r s : List UInt8},
    FieldsLexical fs → FieldsLexical gs → moreFields fs ++ r = moreFields gs ++ s →
    fs = gs ∧ r = s
  | [], [], r, s, _, _, same => ⟨rfl, List.append_cancel_left same⟩
  | [], (l, w) :: gs, r, s, _, _, same => absurd (List.cons.inj same).1 (by decide)
  | (k, v) :: fs, [], r, s, _, _, same => absurd (List.cons.inj same).1 (by decide)
  | (k, v) :: fs, (l, w) :: gs, r, s, left, right, same => by
    simp only [moreFields, List.cons_append, List.cons.injEq, true_and, List.append_assoc] at same
    obtain ⟨rfl, value⟩ := stringBytes_cancel same
    obtain ⟨rfl, more⟩ := encode_cancel v w left.1 right.1 (moreFields_ends fs r)
      (moreFields_ends gs s) (List.cons.inj value).2
    obtain ⟨rfl, rest⟩ := moreFields_cancel fs gs left.2 right.2 more
    exact ⟨rfl, rest⟩
end

/-- **Main theorem.**  A value is determined by its encoding. -/
theorem encode_injective {a b : Json} (left : a.Lexical) (right : b.Lexical)
    (same : a.encode = b.encode) : a = b := by
  have ends : Ends [] := fun _ none => nomatch none
  exact (encode_cancel a b left right ends ends (congrArg (· ++ []) same)).1

end YHarness.Lib

/-
# YHarness.Lib.JsonChars -- the compact encoding as a text

`Json.text` is the string a serializer returns: its bytes are `Json.encode`
(`utf8Bytes_text`), so its size is `Json.encodedLen` (`text_size`).  An object whose texts
hold no control character is written without one (`fields_text_plain`).
-/
import YHarness.Lib.JsonText

namespace YHarness.Lib

set_option autoImplicit false

/-! ## Characters -/

/-- One character of a text inside an encoded string: only ASCII is ever escaped. -/
def escapeChar (c : Char) : List Char :=
  if c.val.toNat < 128 then (escapeByte c.val.toUInt8).map fun b => Char.ofNat b.toNat else [c]

def stringChars (s : String) : List Char :=
  '"' :: (s.toList.flatMap escapeChar ++ ['"'])

mutual
def Json.chars : Json → List Char
  | .null => ['n', 'u', 'l', 'l']
  | .bool true => ['t', 'r', 'u', 'e']
  | .bool false => ['f', 'a', 'l', 's', 'e']
  | .nat n => Nat.toDigits 10 n
  | .num text => text.toList
  | .str s => stringChars s
  | .arr [] => ['[', ']']
  | .arr (v :: vs) => '[' :: (v.chars ++ moreValueChars vs)
  | .obj [] => ['\x7b', '\x7d']
  | .obj ((k, v) :: fs) => '\x7b' :: (stringChars k ++ ':' :: (v.chars ++ moreFieldChars fs))

def moreValueChars : List Json → List Char
  | [] => [']']
  | v :: vs => ',' :: (v.chars ++ moreValueChars vs)

def moreFieldChars : List (String × Json) → List Char
  | [] => ['\x7d']
  | (k, v) :: fs => ',' :: (stringChars k ++ ':' :: (v.chars ++ moreFieldChars fs))
end

/-- The text of a value. -/
def Json.text (v : Json) : String := String.ofList v.chars

/-! ## Its bytes -/

/-- The bytes of a list of characters. -/
def charBytes (cs : List Char) : List UInt8 := cs.flatMap String.utf8EncodeChar

@[simp] theorem charBytes_nil : charBytes [] = [] := rfl

@[simp] theorem charBytes_cons (c : Char) (cs : List Char) :
    charBytes (c :: cs) = String.utf8EncodeChar c ++ charBytes cs := rfl

@[simp] theorem charBytes_append (cs ds : List Char) :
    charBytes (cs ++ ds) = charBytes cs ++ charBytes ds := List.flatMap_append

theorem charBytes_ofList (cs : List Char) : utf8Bytes (String.ofList cs) = charBytes cs := by
  rw [utf8Bytes_eq, String.toList_ofList, charBytes]

variable {c : Char} {fs : List (String × Json)}

theorem encode_ascii (ascii : c.val.toNat < 128) :
    String.utf8EncodeChar c = [UInt8.ofNat c.val.toNat] := by
  unfold String.utf8EncodeChar
  rw [if_pos (show c.val.toNat ≤ 127 by omega)]

theorem escapeByte_high {b : UInt8} (high : 128 ≤ b.toNat) : escapeByte b = [b] := by
  simp only [escapeByte]
  split_ifs <;> first | omega | rfl

theorem escape_ascii : ∀ n < 128,
    charBytes ((escapeByte (UInt8.ofNat n)).map fun b => Char.ofNat b.toNat) =
      escapeByte (UInt8.ofNat n) := by
  decide +kernel

theorem charBytes_escapeChar (c : Char) :
    charBytes (escapeChar c) = (String.utf8EncodeChar c).flatMap escapeByte := by
  by_cases ascii : c.val.toNat < 128
  · rw [escapeChar, if_pos ascii, encode_ascii ascii, List.flatMap_singleton]
    exact escape_ascii _ ascii
  · have high : ∀ b ∈ String.utf8EncodeChar c, escapeByte b = [b] := fun b member =>
      escapeByte_high (by
        by_contra low
        have code := ascii_of_byte member (by omega)
        omega)
    rw [escapeChar, if_neg ascii, List.flatMap_congr high, List.flatMap_singleton']
    simp

theorem charBytes_flatMap_escape (cs : List Char) :
    charBytes (cs.flatMap escapeChar) = (charBytes cs).flatMap escapeByte := by
  induction cs with
  | nil => rfl
  | cons c cs ih => simp [charBytes_escapeChar, ih]

theorem charBytes_stringChars (s : String) : charBytes (stringChars s) = stringBytes s := by
  have quote : String.utf8EncodeChar '"' = [34] := by decide
  rw [stringChars, stringBytes, charBytes_cons, quote, charBytes_append,
    charBytes_flatMap_escape, utf8Bytes_eq]
  simp [charBytes, quote]

theorem charBytes_digits (n : Nat) : charBytes (Nat.toDigits 10 n) = natBytes n := by
  have digits : ∀ c ∈ Nat.toDigits 10 n, String.utf8EncodeChar c = [UInt8.ofNat c.toNat] :=
    fun c member => encode_ascii (by
      have digit := digit_toNat member
      rw [Char.toNat] at digit
      omega)
  rw [charBytes, natBytes, List.flatMap_congr digits, List.map_eq_flatMap]

mutual
theorem charBytes_chars : ∀ v : Json, charBytes v.chars = v.encode
  | .null => by decide
  | .bool true => by decide
  | .bool false => by decide
  | .nat n => charBytes_digits n
  | .num text => (utf8Bytes_eq text).symm
  | .str s => charBytes_stringChars s
  | .arr [] => by decide
  | .arr (v :: vs) => by
    rw [Json.chars, charBytes_cons, charBytes_append, charBytes_chars v,
      charBytes_moreValues vs]
    rfl
  | .obj [] => by decide
  | .obj ((k, v) :: fs) => by
    rw [Json.chars, charBytes_cons, charBytes_append, charBytes_stringChars, charBytes_cons,
      charBytes_append, charBytes_chars v, charBytes_moreFields fs]
    rfl

theorem charBytes_moreValues : ∀ vs : List Json, charBytes (moreValueChars vs) = moreValues vs
  | [] => by decide
  | v :: vs => by
    rw [moreValueChars, charBytes_cons, charBytes_append, charBytes_chars v,
      charBytes_moreValues vs]
    rfl

theorem charBytes_moreFields : ∀ fs : List (String × Json),
    charBytes (moreFieldChars fs) = moreFields fs
  | [] => by decide
  | (k, v) :: fs => by
    rw [moreFieldChars, charBytes_cons, charBytes_append, charBytes_stringChars,
      charBytes_cons, charBytes_append, charBytes_chars v, charBytes_moreFields fs]
    rfl
end

/-- The text of a value is its compact encoding. -/
theorem utf8Bytes_text (v : Json) : utf8Bytes v.text = v.encode := by
  rw [Json.text, charBytes_ofList, charBytes_chars]

theorem text_size (v : Json) : v.text.utf8ByteSize = v.encodedLen := by
  rw [← utf8Bytes_length, utf8Bytes_text, encode_length]

/-! ## Texts without control characters -/

theorem escape_plain : ∀ n < 128, isControl (Char.ofNat n) = false →
    (escapeByte (UInt8.ofNat n)).any (fun b => isControl (Char.ofNat b.toNat)) = false := by
  decide +kernel

theorem escapeChar_plain (plain : isControl c = false) {d : Char} (member : d ∈ escapeChar c) :
    isControl d = false := by
  by_cases ascii : c.val.toNat < 128
  · rw [escapeChar, if_pos ascii] at member
    obtain ⟨b, written, rfl⟩ := List.mem_map.1 member
    have escaped := escape_plain c.val.toNat ascii (by rwa [← Char.toNat, Char.ofNat_toNat])
    exact Bool.eq_false_iff.2 (List.any_eq_false.1 escaped b written)
  · rw [escapeChar, if_neg ascii, List.mem_singleton] at member
    rw [member, plain]

theorem stringChars_plain {s : String} (plain : s.toList.any isControl = false)
    (member : c ∈ stringChars s) : isControl c = false := by
  rw [stringChars, List.mem_cons, List.mem_append, List.mem_flatMap, List.mem_singleton]
    at member
  rcases member with rfl | ⟨d, known, written⟩ | rfl
  · decide
  · exact escapeChar_plain (by simpa using List.any_eq_false.1 plain d known) written
  · decide

theorem digits_plain {n : Nat} (member : c ∈ Nat.toDigits 10 n) :
    isControl c = false := by
  have digit := digit_toNat member
  rw [show c.toNat = c.val.toNat from rfl] at digit
  exact not_isControl (by omega) (by omega)

/-- A number, or a text without control characters. -/
def Json.PlainLeaf : Json → Prop
  | .nat _ => True
  | .str s => s.toList.any isControl = false
  | _ => False

theorem PlainLeaf.chars {v : Json} (plain : v.PlainLeaf) (member : c ∈ v.chars) :
    isControl c = false := by
  cases v with
  | nat n => exact digits_plain member
  | str s => exact stringChars_plain plain member
  | _ => cases plain

theorem moreFieldChars_plain (plain : ∀ f ∈ fs, f.1.toList.any isControl = false ∧ f.2.PlainLeaf)
    (member : c ∈ moreFieldChars fs) : isControl c = false := by
  induction fs with
  | nil =>
    rw [moreFieldChars, List.mem_singleton] at member
    rw [member]
    decide
  | cons f fs ih =>
    obtain ⟨key, value⟩ := plain f List.mem_cons_self
    simp only [moreFieldChars, List.mem_cons, List.mem_append] at member
    rcases member with rfl | inKey | rfl | inValue | later
    · decide
    · exact stringChars_plain key inKey
    · decide
    · exact PlainLeaf.chars value inValue
    · exact ih (fun g known => plain g (List.mem_cons_of_mem _ known)) later

/-- The text of an object of plain leaves holds no control character. -/
theorem fields_text_plain (plain : ∀ f ∈ fs, f.1.toList.any isControl = false ∧ f.2.PlainLeaf) :
    (Json.obj fs).text.toList.any isControl = false := by
  rw [Json.text, String.toList_ofList, List.any_eq_false]
  intro c member
  cases fs with
  | nil =>
    rw [Json.chars, List.mem_pair] at member
    rcases member with rfl | rfl <;> decide
  | cons f fs =>
    obtain ⟨key, value⟩ := plain f List.mem_cons_self
    simp only [Json.chars, List.mem_cons, List.mem_append] at member
    rw [Bool.not_eq_true]
    rcases member with rfl | inKey | rfl | inValue | later
    · decide
    · exact stringChars_plain key inKey
    · decide
    · exact PlainLeaf.chars value inValue
    · exact moreFieldChars_plain (fun g known => plain g (List.mem_cons_of_mem _ known)) later

end YHarness.Lib

import Mathlib.Algebra.Group.Int.Defs
import Mathlib.Algebra.Group.Nat.Defs

/-!
# Text of numbers and bytes

The decimal and hexadecimal text of numbers and bytes, with the parsers that read it back,
and what separates the fields of a text.

* `parseInt_ofInt`, `hexDecode_hexEncode`: what is printed is read back.
* `append_stop_inj`: a field without its stop is told from what comes after it.
* `utf8_eq_of_ascii`: the bytes of a text of ASCII characters are its characters.
-/

set_option autoImplicit false

universe u

namespace Text

/-! ## Decimal numbers -/

/-- An integer as it is displayed. -/
def ofInt (value : ℤ) : List Char :=
  if value < 0 then '-' :: Nat.toDigits 10 value.natAbs else Nat.toDigits 10 value.natAbs

/-- The number of a text of digits. -/
def parseDigits (digits : List Char) : Option ℕ :=
  if digits ≠ [] ∧ digits.all Char.isDigit = true then some (Nat.ofDigitChars 10 digits 0)
  else none

/-- An integer of so many bits, with its sign: digits after a plus, a minus or nothing. -/
def parseInt (width : ℕ) : List Char → Option ℤ
  | '-' :: digits =>
      (parseDigits digits).bind fun value => if value ≤ 2 ^ (width - 1) then some (-value) else none
  | '+' :: digits =>
      (parseDigits digits).bind fun value => if value < 2 ^ (width - 1) then some value else none
  | digits =>
      (parseDigits digits).bind fun value => if value < 2 ^ (width - 1) then some value else none

theorem isDigit_of_mem_toDigits {value : ℕ} {c : Char} (member : c ∈ Nat.toDigits 10 value) :
    c.isDigit = true :=
  Nat.isDigit_of_mem_toDigits (by decide) (by decide) member

theorem parseDigits_toDigits (value : ℕ) : parseDigits (Nat.toDigits 10 value) = some value := by
  unfold parseDigits
  rw [if_pos, Nat.ofDigitChars_ten_toDigits]
  refine ⟨Nat.toDigits_ne_nil, List.all_eq_true.mpr ?_⟩
  intro c member
  exact isDigit_of_mem_toDigits member

/-- The digits of a number start with no sign. -/
theorem toDigits_eq_cons (value : ℕ) : ∃ first rest, Nat.toDigits 10 value = first :: rest ∧
    first ≠ '-' ∧ first ≠ '+' := by
  cases digits : Nat.toDigits 10 value with
  | nil => exact absurd digits Nat.toDigits_ne_nil
  | cons first rest =>
      have digit : first.isDigit = true := by
        have member : first ∈ Nat.toDigits 10 value := by
          rw [digits]
          exact List.mem_cons_self
        exact isDigit_of_mem_toDigits member
      refine ⟨first, rest, rfl, ?_, ?_⟩
      · rintro rfl
        exact absurd digit (by decide)
      · rintro rfl
        exact absurd digit (by decide)

/-- **A displayed integer is read back.** -/
theorem parseInt_ofInt {width : ℕ} {value : ℤ} (low : -(2 ^ (width - 1) : ℕ) ≤ value)
    (high : value < (2 ^ (width - 1) : ℕ)) : parseInt width (ofInt value) = some value := by
  unfold ofInt
  by_cases negative : value < 0
  · rw [if_pos negative]
    simp only [parseInt, parseDigits_toDigits, Option.bind_some]
    rw [if_pos (by omega)]
    congr 1
    omega
  · rw [if_neg negative]
    obtain ⟨first, rest, digits, minus, plus⟩ := toDigits_eq_cons value.natAbs
    have parsed := parseDigits_toDigits value.natAbs
    rw [digits] at parsed ⊢
    unfold parseInt
    split
    · rename_i shape
      exact absurd (List.cons.inj shape).1 minus
    · rename_i shape
      exact absurd (List.cons.inj shape).1 plus
    · rw [parsed, Option.bind_some, if_pos (by omega)]
      congr 1
      omega

/-- The characters of a displayed integer. -/
theorem mem_ofInt {value : ℤ} {c : Char} (member : c ∈ ofInt value) :
    c = '-' ∨ c.isDigit = true := by
  unfold ofInt at member
  split at member
  · rcases List.mem_cons.mp member with rfl | later
    · exact .inl rfl
    · exact .inr (isDigit_of_mem_toDigits later)
  · exact .inr (isDigit_of_mem_toDigits member)

/-- Integers are told apart by how they are displayed. -/
theorem ofInt_injective : Function.Injective ofInt := by
  intro first second same
  have bound : ∃ width, first.natAbs < 2 ^ (width - 1) ∧ second.natAbs < 2 ^ (width - 1) := by
    refine ⟨first.natAbs + second.natAbs + 1, ?_, ?_⟩
    · exact Nat.lt_of_le_of_lt (Nat.le_add_right _ _) Nat.lt_two_pow_self
    · exact Nat.lt_of_le_of_lt (Nat.le_add_left _ _) Nat.lt_two_pow_self
  obtain ⟨width, one, other⟩ := bound
  have readFirst : parseInt width (ofInt first) = some first :=
    parseInt_ofInt (by omega) (by omega)
  have readSecond : parseInt width (ofInt second) = some second :=
    parseInt_ofInt (by omega) (by omega)
  rw [same, readSecond] at readFirst
  exact (Option.some.inj readFirst).symm

/-! ## Hexadecimal bytes -/

def hexEncode (bytes : List UInt8) : List Char :=
  bytes.flatMap fun byte => [Nat.digitChar (byte.toNat / 16), Nat.digitChar (byte.toNat % 16)]

def hexValue (digit : Char) : Option ℕ :=
  if '0' ≤ digit ∧ digit ≤ '9' then some (digit.toNat - 48)
  else if 'a' ≤ digit ∧ digit ≤ 'f' then some (digit.toNat - 87)
  else if 'A' ≤ digit ∧ digit ≤ 'F' then some (digit.toNat - 55)
  else none

def hexDecode : List Char → Option (List UInt8)
  | [] => some []
  | [_] => none
  | high :: low :: rest => do
      let high ← hexValue high
      let low ← hexValue low
      return UInt8.ofNat (16 * high + low) :: (← hexDecode rest)

theorem hexValue_digitChar : ∀ digit < 16, hexValue (Nat.digitChar digit) = some digit := by
  decide

theorem hexDecode_hexEncode (bytes : List UInt8) : hexDecode (hexEncode bytes) = some bytes := by
  induction bytes with
  | nil => rfl
  | cons byte rest ih =>
      have small := byte.toNat_lt
      have high := hexValue_digitChar (byte.toNat / 16) (by omega)
      have low := hexValue_digitChar (byte.toNat % 16) (by omega)
      have whole : 16 * (byte.toNat / 16) + byte.toNat % 16 = byte.toNat := by omega
      rw [hexEncode, List.flatMap_cons]
      simp only [List.cons_append, List.nil_append, hexDecode, high, low]
      rw [← hexEncode, ih]
      simp only [Option.bind_eq_bind, Option.bind_some, whole, UInt8.ofNat_toNat]
      rfl

/-- The codes of digits and letters. -/
theorem code_of_isAlphanum {c : Char} (plain : c.isAlphanum = true) :
    (48 ≤ c.toNat ∧ c.toNat ≤ 57) ∨ (65 ≤ c.toNat ∧ c.toNat ≤ 90) ∨
      (97 ≤ c.toNat ∧ c.toNat ≤ 122) := by
  delta Char.isAlphanum Char.isAlpha Char.isUpper Char.isLower Char.isDigit at plain
  simp [UInt32.le_iff_toNat_le] at plain
  have code : c.val.toNat = c.toNat := rfl
  omega

/-- The characters of hexadecimal text. -/
theorem isAlphanum_of_mem_hexEncode {bytes : List UInt8} {c : Char}
    (member : c ∈ hexEncode bytes) : c.isAlphanum = true := by
  have digit : ∀ value < 16, (Nat.digitChar value).isAlphanum = true := by decide
  obtain ⟨byte, -, member⟩ := List.mem_flatMap.mp member
  have small := byte.toNat_lt
  rcases List.mem_cons.mp member with rfl | last
  · exact digit _ (by omega)
  · rw [List.mem_singleton.mp last]
    exact digit _ (by omega)

theorem ascii_of_mem_hexEncode {bytes : List UInt8} {c : Char}
    (member : c ∈ hexEncode bytes) : c.toNat < 128 := by
  have code := code_of_isAlphanum (isAlphanum_of_mem_hexEncode member)
  omega

theorem length_hexEncode (bytes : List UInt8) : (hexEncode bytes).length = 2 * bytes.length := by
  induction bytes with
  | nil => rfl
  | cons byte rest ih =>
      rw [hexEncode, List.flatMap_cons, ← hexEncode, List.length_append, ih]
      simp only [List.length_cons, List.length_nil]
      omega

/-! ## Fields -/

/-- What is before and after the first separator. -/
def splitOnce (separator : Char) (text : List Char) : Option (List Char × List Char) :=
  match text.dropWhile (· ≠ separator) with
  | [] => none
  | _ :: value => some (text.takeWhile (· ≠ separator), value)

/-- What follows the part before the first separator starts with it. -/
theorem eq_of_dropWhile_cons {separator c : Char} {text rest : List Char}
    (found : text.dropWhile (· ≠ separator) = c :: rest) : c = separator := by
  have stops := List.head?_dropWhile_not (fun x => decide (x ≠ separator)) text
  rw [found] at stops
  exact Decidable.not_not.mp (of_decide_eq_false stops)

theorem splitOnce_append {separator : Char} {key : List Char} (value : List Char)
    (apart : separator ∉ key) : splitOnce separator (key ++ separator :: value) =
      some (key, value) := by
  have all : ∀ c ∈ key, decide (c ≠ separator) = true := by
    intro c member
    refine decide_eq_true ?_
    rintro rfl
    exact apart member
  unfold splitOnce
  rw [List.dropWhile_append_of_pos all, List.takeWhile_append_of_pos all]
  simp

variable {α : Type u}

/-- A field that has no stop in it is told from what comes after it, which starts with one. -/
theorem append_stop_inj (stops : α → Prop) {first second : List α} {stop other : α}
    {rest tail : List α} (clear : ∀ x ∈ first, ¬ stops x) (also : ∀ x ∈ second, ¬ stops x)
    (ends : stops stop) (ends' : stops other)
    (same : first ++ stop :: rest = second ++ other :: tail) :
    first = second ∧ stop = other ∧ rest = tail := by
  induction first generalizing second with
  | nil =>
      cases second with
      | nil =>
          obtain ⟨rfl, rfl⟩ := List.cons.inj same
          exact ⟨rfl, rfl, rfl⟩
      | cons y ys =>
          obtain ⟨rfl, -⟩ := List.cons.inj same
          exact absurd ends (also _ List.mem_cons_self)
  | cons x xs ih =>
      cases second with
      | nil =>
          obtain ⟨rfl, -⟩ := List.cons.inj same
          exact absurd ends' (clear _ List.mem_cons_self)
      | cons y ys =>
          obtain ⟨here, later⟩ := List.cons.inj same
          subst here
          obtain ⟨rfl, both⟩ := ih (fun z member => clear z (List.mem_cons_of_mem _ member))
            (fun z member => also z (List.mem_cons_of_mem _ member)) later
          exact ⟨rfl, both⟩

/-! ## Bytes -/

theorem toList_loop (bytes : ByteArray) (i : ℕ) (read : List UInt8) :
    ByteArray.toList.loop bytes i read = read.reverse ++ bytes.data.toList.drop i := by
  have size : bytes.data.toList.length = bytes.size := Array.length_toList
  induction left : bytes.size - i generalizing i read with
  | zero =>
      rw [ByteArray.toList.loop, if_neg (by omega), List.drop_eq_nil_of_le (by omega),
        List.append_nil]
  | succ left ih =>
      have within : i < bytes.size := by omega
      have inside : i < bytes.data.toList.length := by omega
      rw [ByteArray.toList.loop, if_pos within, ih (i + 1) _ (by omega), List.reverse_cons,
        List.append_assoc, List.drop_eq_getElem_cons inside]
      have byte : bytes.get! i = bytes.data.toList[i] := getElem!_pos bytes.data i within
      rw [byte]
      rfl

theorem toList_eq_data (bytes : ByteArray) : bytes.toList = bytes.data.toList := by
  rw [ByteArray.toList, toList_loop]
  rfl

/-- Texts are told apart by their bytes. -/
theorem utf8_inj {first second : String} (same : first.toUTF8.toList = second.toUTF8.toList) :
    first = second := by
  rw [toList_eq_data, toList_eq_data] at same
  exact String.toByteArray_inj.mp (ByteArray.ext (Array.toList_inj.mp same))

/-- The bytes of a text, character by character. -/
theorem toUTF8_toList (text : String) :
    text.toUTF8.toList = text.toList.flatMap String.utf8EncodeChar := by
  have encoded : text.toUTF8 = text.toList.utf8Encode := by
    have whole : (String.ofList text.toList).toByteArray = text.toList.utf8Encode :=
      String.toByteArray_ofList
    rw [String.ofList_toList] at whole
    exact whole
  rw [toList_eq_data, encoded]
  exact List.toList_data_toByteArray

theorem ascii_of_all {text : String}
    (ascii : text.toList.all (fun c => decide (c.toNat < 128)) = true) :
    ∀ c ∈ text.toList, c.toNat < 128 :=
  fun c member => of_decide_eq_true (List.all_eq_true.mp ascii c member)

/-- The bytes of a text of ASCII characters. -/
theorem utf8_eq_of_ascii {text : String} (ascii : ∀ c ∈ text.toList, c.toNat < 128) :
    text.toUTF8.toList = text.toList.map fun c => UInt8.ofNat c.toNat := by
  rw [toUTF8_toList]
  generalize text.toList = chars at ascii
  induction chars with
  | nil => rfl
  | cons c rest ih =>
      have small : c.utf8Size = 1 := by
        rw [Char.utf8Size_eq_one_iff, UInt32.le_iff_toNat_le]
        exact Nat.le_of_lt_succ (ascii c List.mem_cons_self)
      rw [List.flatMap_cons, List.map_cons, String.utf8EncodeChar_eq_singleton small,
        ih fun other member => ascii other (List.mem_cons_of_mem _ member)]
      rfl

theorem utf8ByteSize_of_ascii {text : String} (ascii : ∀ c ∈ text.toList, c.toNat < 128) :
    text.utf8ByteSize = text.toList.length := by
  have bytes := congrArg List.length (utf8_eq_of_ascii ascii)
  rw [List.length_map, toList_eq_data] at bytes
  exact bytes

end Text

import Safrod.Legacy.Cln
import Safrod.Library.Text

/-!
# Identifiers in text

`SettlementId.fromHex` reads what `SettlementId.toText` prints, in either case of the
letters. It reads each byte with the parser of integers, which takes a plus sign before the
digits, so it reads some texts that are not hex, too (`fromHex_exact_iff`).
-/

set_option autoImplicit false

namespace Safrod.Legacy

def hexPairs : List Char → Option (List UInt8)
  | [] => some []
  | [_] => none
  | high :: low :: rest => do return (← hexPair high low) :: (← hexPairs rest)

def SettlementId.fromHex (text : String) : Option SettlementId :=
  if text.utf8ByteSize ≠ 32 ∨ text.toList.any (fun c => decide (128 ≤ c.toNat)) then none
  else
    match hexPairs text.toList with
    | none => none
    | some bytes => if size : bytes.length = 16 then some ⟨bytes, size⟩ else none

/-! ## Hex digits -/

def isHexDigit (c : Char) : Bool :=
  ('0' ≤ c && c ≤ '9') || ('a' ≤ c && c ≤ 'f') || ('A' ≤ c && c ≤ 'F')

/-- Two by two, a hex digit or a plus sign, and a hex digit. -/
def isSignedHex : List Char → Bool
  | [] => true
  | [_] => false
  | high :: low :: rest => (isHexDigit high || high = '+') && isHexDigit low && isSignedHex rest

theorem not_le_of_ascii {c bound : Char} (high : 128 ≤ c.toNat) (low : bound.toNat < 128) :
    ¬ c ≤ bound := by
  intro below
  have small : c.toNat ≤ bound.toNat := UInt32.le_iff_toNat_le.mp below
  omega

theorem hexValue_isSome (c : Char) : (hexValue c).isSome = isHexDigit c := by
  by_cases high : 128 ≤ c.toNat
  · have nine := not_le_of_ascii high (show ('9' : Char).toNat < 128 by decide)
    have f := not_le_of_ascii high (show ('f' : Char).toNat < 128 by decide)
    have upper := not_le_of_ascii high (show ('F' : Char).toNat < 128 by decide)
    simp only [hexValue, isHexDigit, nine, f, upper, and_false, if_false, decide_false,
      Bool.and_false, Bool.or_false, Option.isSome_none]
  · have ascii : ∀ code < 128,
        (hexValue (Char.ofNat code)).isSome = isHexDigit (Char.ofNat code) := by decide
    have checked := ascii c.toNat (Nat.not_le.mp high)
    rwa [Char.ofNat_toNat] at checked

theorem ascii_of_isHexDigit {c : Char} (digit : isHexDigit c = true) : c.toNat < 128 := by
  by_contra high
  have nine := not_le_of_ascii (Nat.not_lt.mp high) (show ('9' : Char).toNat < 128 by decide)
  have f := not_le_of_ascii (Nat.not_lt.mp high) (show ('f' : Char).toNat < 128 by decide)
  have upper := not_le_of_ascii (Nat.not_lt.mp high) (show ('F' : Char).toNat < 128 by decide)
  simp only [isHexDigit, nine, f, upper, decide_false, Bool.and_false, Bool.or_false,
    Bool.false_eq_true] at digit

/-- The value of a digit prints as the digit in lower case. -/
theorem hexValue_some {c : Char} {value : ℕ} (read : hexValue c = some value) :
    value < 16 ∧ hexDigit value = c.toLower := by
  have ascii : ∀ code < 128, (hexValue (Char.ofNat code)).all
      (fun value => decide (value < 16 ∧ hexDigit value = (Char.ofNat code).toLower)) = true := by
    decide
  have digit : isHexDigit c = true := by rw [← hexValue_isSome, read]; rfl
  have checked := ascii c.toNat (ascii_of_isHexDigit digit)
  rw [Char.ofNat_toNat, read] at checked
  exact of_decide_eq_true checked

theorem hexValue_hexDigit : ∀ value < 16, hexValue (hexDigit value) = some value := by decide

theorem ascii_hexDigit : ∀ value < 16, (hexDigit value).toNat < 128 := by decide

/-! ## Bytes -/

theorem hexPair_isSome (high low : Char) :
    (hexPair high low).isSome = ((isHexDigit high || high = '+') && isHexDigit low) := by
  rw [← hexValue_isSome, ← hexValue_isSome]
  unfold hexPair
  cases hexValue high with
  | some upper => cases hexValue low <;> rfl
  | none =>
      cases hexValue low with
      | none => exact (Bool.and_false _).symm
      | some lower =>
          by_cases plus : high = '+'
          · simp only [plus, if_true, decide_true, Bool.or_true, Bool.and_self, Option.isSome_some]
          · simp only [plus, if_false, decide_false, Bool.or_self, Bool.false_and,
              Option.isSome_none]

/-- A byte of two hex digits prints as these in lower case. -/
theorem hexByte_of_hexPair {high low : Char} {byte : UInt8} (read : hexPair high low = some byte)
    (digit : isHexDigit high = true) : hexByte byte = [high.toLower, low.toLower] := by
  rw [← hexValue_isSome] at digit
  obtain ⟨upper, upperRead⟩ := Option.isSome_iff_exists.mp digit
  unfold hexPair at read
  rw [upperRead] at read
  cases lowRead : hexValue low with
  | none =>
      rw [lowRead] at read
      cases read
  | some lower =>
      rw [lowRead] at read
      cases read
      obtain ⟨upperSmall, upperPrinted⟩ := hexValue_some upperRead
      obtain ⟨lowerSmall, lowerPrinted⟩ := hexValue_some lowRead
      have value : (UInt8.ofNat (16 * upper + lower)).toNat = 16 * upper + lower :=
        UInt8.toNat_ofNat_of_lt (show 16 * upper + lower < 256 by omega)
      have first : (16 * upper + lower) / 16 = upper := by omega
      have second : (16 * upper + lower) % 16 = lower := by omega
      rw [hexByte, value, first, second, upperPrinted, lowerPrinted]

theorem hexPair_hexByte (byte : UInt8) :
    hexPair (hexDigit (byte.toNat / 16)) (hexDigit (byte.toNat % 16)) = some byte := by
  have small := byte.toNat_lt
  have whole : 16 * (byte.toNat / 16) + byte.toNat % 16 = byte.toNat := by omega
  rw [hexPair, hexValue_hexDigit _ (by omega), hexValue_hexDigit _ (by omega)]
  simp only [whole, UInt8.ofNat_toNat]

/-! ## Texts of bytes -/

theorem hexPairs_isSome (chars : List Char) : (hexPairs chars).isSome = isSignedHex chars := by
  induction chars using hexPairs.induct with
  | case1 => rfl
  | case2 => rfl
  | case3 high low rest ih =>
      rw [isSignedHex, ← hexPair_isSome, ← ih, hexPairs]
      cases hexPair high low with
      | none => rfl
      | some byte => cases hexPairs rest <;> rfl

/-- A text of bytes is a first pair and a text of bytes. -/
theorem hexPairs_cons {high low : Char} {rest : List Char} {bytes : List UInt8}
    (read : hexPairs (high :: low :: rest) = some bytes) :
    ∃ byte later, hexPair high low = some byte ∧ hexPairs rest = some later ∧
      bytes = byte :: later := by
  rw [hexPairs] at read
  obtain ⟨byte, first, read⟩ := Option.bind_eq_some_iff.mp read
  obtain ⟨later, others, same⟩ := Option.bind_eq_some_iff.mp read
  exact ⟨byte, later, first, others, (Option.some.inj same).symm⟩

theorem hexPairs_length {chars : List Char} {bytes : List UInt8}
    (read : hexPairs chars = some bytes) : chars.length = 2 * bytes.length := by
  induction chars using hexPairs.induct generalizing bytes with
  | case1 =>
      cases read
      rfl
  | case2 => cases read
  | case3 high low rest ih =>
      obtain ⟨byte, later, -, others, rfl⟩ := hexPairs_cons read
      have counted := ih others
      simp only [List.length_cons]
      omega

/-- Bytes of hex digits print as these in lower case. -/
theorem hexPairs_print {chars : List Char} {bytes : List UInt8}
    (read : hexPairs chars = some bytes) (digits : ∀ c ∈ chars, isHexDigit c = true) :
    bytes.flatMap hexByte = chars.map Char.toLower := by
  induction chars using hexPairs.induct generalizing bytes with
  | case1 =>
      cases read
      rfl
  | case2 => cases read
  | case3 high low rest ih =>
      obtain ⟨byte, later, first, others, rfl⟩ := hexPairs_cons read
      have printed := ih others fun c member =>
        digits c (List.mem_cons_of_mem _ (List.mem_cons_of_mem _ member))
      rw [List.flatMap_cons, hexByte_of_hexPair first (digits high List.mem_cons_self), printed]
      rfl

theorem hexPairs_hexBytes (bytes : List UInt8) :
    hexPairs (bytes.flatMap hexByte) = some bytes := by
  induction bytes with
  | nil => rfl
  | cons byte rest ih =>
      rw [List.flatMap_cons, hexByte]
      simp only [List.cons_append, List.nil_append, hexPairs, hexPair_hexByte, ih]
      rfl

theorem ascii_of_isSignedHex {chars : List Char} (signed : isSignedHex chars = true) :
    ∀ c ∈ chars, c.toNat < 128 := by
  induction chars using isSignedHex.induct with
  | case1 =>
      intro c member
      cases member
  | case2 => cases signed
  | case3 high low rest ih =>
      rw [isSignedHex, Bool.and_eq_true, Bool.and_eq_true, Bool.or_eq_true] at signed
      obtain ⟨⟨first, second⟩, others⟩ := signed
      intro c member
      rcases List.mem_cons.mp member with rfl | later
      · rcases first with digit | plus
        · exact ascii_of_isHexDigit digit
        · rw [of_decide_eq_true plus]
          decide
      · rcases List.mem_cons.mp later with rfl | last
        · exact ascii_of_isHexDigit second
        · exact ih others c last

theorem plus_not_hexDigit : isHexDigit '+' = false := by decide

/-- Hex with a sign that has no sign in it is hex. -/
theorem isSignedHex_iff {chars : List Char} (even : chars.length % 2 = 0) :
    (∀ c ∈ chars, isHexDigit c = true) ↔ isSignedHex chars = true ∧ '+' ∉ chars := by
  induction chars using isSignedHex.induct with
  | case1 => exact iff_of_true (fun c member => by cases member) ⟨rfl, List.not_mem_nil⟩
  | case2 => cases even
  | case3 high low rest ih =>
      have shorter : rest.length % 2 = 0 := by
        simp only [List.length_cons] at even
        omega
      rw [List.forall_mem_cons, List.forall_mem_cons, ih shorter]
      simp only [isSignedHex, Bool.and_eq_true, Bool.or_eq_true, decide_eq_true_eq, List.mem_cons,
        not_or]
      constructor
      · rintro ⟨first, second, others, plain⟩
        refine ⟨⟨⟨.inl first, second⟩, others⟩, ?_, ?_, plain⟩
        · rintro rfl
          rw [plus_not_hexDigit] at first
          cases first
        · rintro rfl
          rw [plus_not_hexDigit] at second
          cases second
      · rintro ⟨⟨⟨first, second⟩, others⟩, differs, -, plain⟩
        exact ⟨first.resolve_right fun same => differs same.symm, second, others, plain⟩

/-! ## Identifiers -/

namespace SettlementId

/-- The text is 32 hex digits. -/
def IsHex (text : String) : Prop :=
  text.toList.length = 32 ∧ ∀ c ∈ text.toList, isHexDigit c = true

/-- The text is 16 bytes of hex, at least one of them with a sign. -/
def HasSign (text : String) : Prop :=
  text.toList.length = 32 ∧ isSignedHex text.toList = true ∧ '+' ∈ text.toList

theorem fromHex_some {text : String} {id : SettlementId} (read : fromHex text = some id) :
    hexPairs text.toList = some id.bytes := by
  unfold fromHex at read
  split at read
  · cases read
  · split at read
    · cases read
    · rename_i bytes found
      split at read
      · cases read
        exact found
      · cases read

/-- What is read: sixteen bytes of hex, with a sign or without. -/
theorem fromHex_isSome_iff {text : String} : (fromHex text).isSome = true ↔
    text.toList.length = 32 ∧ isSignedHex text.toList = true := by
  constructor
  · intro read
    obtain ⟨id, read⟩ := Option.isSome_iff_exists.mp read
    have pairs := fromHex_some read
    refine ⟨?_, ?_⟩
    · rw [hexPairs_length pairs, id.size]
    · rw [← hexPairs_isSome, pairs]
      rfl
  · rintro ⟨length, signed⟩
    have ascii := ascii_of_isSignedHex signed
    have accepted : ¬ (text.utf8ByteSize ≠ 32 ∨
        text.toList.any (fun c => decide (128 ≤ c.toNat))) := by
      rintro (size | foreign)
      · exact size ((Text.utf8ByteSize_of_ascii ascii).trans length)
      · obtain ⟨c, member, high⟩ := List.any_eq_true.mp foreign
        exact absurd (ascii c member) (Nat.not_lt.mpr (of_decide_eq_true high))
    rw [← hexPairs_isSome] at signed
    obtain ⟨bytes, pairs⟩ := Option.isSome_iff_exists.mp signed
    have size : bytes.length = 16 := by
      have counted := hexPairs_length pairs
      omega
    unfold fromHex
    rw [if_neg accepted, pairs]
    simp only [size, dif_pos, Option.isSome_some]

/-- An identifier that was read of hex prints as the text in lower case. -/
theorem toText_of_fromHex {text : String} {id : SettlementId} (read : fromHex text = some id)
    (digits : ∀ c ∈ text.toList, isHexDigit c = true) :
    id.toText.toList = text.toList.map Char.toLower := by
  rw [toText, String.toList_ofList]
  exact hexPairs_print (fromHex_some read) digits

/-- A text of sixteen bytes of hex is read as these. -/
theorem fromHex_of_hexPairs {text : String} {id : SettlementId}
    (pairs : hexPairs text.toList = some id.bytes) : fromHex text = some id := by
  have read : (fromHex text).isSome = true := by
    refine fromHex_isSome_iff.mpr ⟨?_, ?_⟩
    · rw [hexPairs_length pairs, id.size]
    · rw [← hexPairs_isSome, pairs]
      rfl
  obtain ⟨other, read⟩ := Option.isSome_iff_exists.mp read
  have same : other.bytes = id.bytes := Option.some.inj ((fromHex_some read).symm.trans pairs)
  cases other
  cases id
  cases same
  exact read

/-- **An identifier is read back from its text.** -/
theorem fromHex_toText (id : SettlementId) : fromHex id.toText = some id := by
  have chars : id.toText.toList = id.bytes.flatMap hexByte := String.toList_ofList
  refine fromHex_of_hexPairs ?_
  rw [chars, hexPairs_hexBytes]

/-- What is read without a sign in it is hex. -/
theorem isHex_iff {text : String} :
    IsHex text ↔ (fromHex text).isSome = true ∧ '+' ∉ text.toList := by
  rw [fromHex_isSome_iff, IsHex, and_assoc]
  refine and_congr_right ?_
  intro length
  exact isSignedHex_iff (by rw [length])

/-- **Exactly the texts of 32 hex digits are read, as what prints as the text in lower case,
except for the texts with a plus sign in the place of a digit, which are read, too.** What is
printed is read back, and two texts without a sign that name one identifier differ in the case
of their letters only. -/
theorem fromHex_exact_iff (text : String) :
    ((((fromHex text).isSome = true ↔ IsHex text) ∧
      ∀ id, fromHex text = some id → id.toText.toList = text.toList.map Char.toLower) ↔
      ¬ HasSign text) ∧
    (∀ id, fromHex id.toText = some id) ∧
    ∀ other id, ¬ HasSign text → ¬ HasSign other → fromHex text = some id →
      fromHex other = some id → text.toList.map Char.toLower = other.toList.map Char.toLower := by
  have printed : ∀ {text : String} {id : SettlementId}, ¬ HasSign text →
      fromHex text = some id → id.toText.toList = text.toList.map Char.toLower := by
    intro text id plain read
    have some_ := Option.isSome_iff_exists.mpr ⟨id, read⟩
    obtain ⟨length, signed⟩ := fromHex_isSome_iff.mp some_
    have clear : '+' ∉ text.toList := fun plus => plain ⟨length, signed, plus⟩
    exact toText_of_fromHex read (isHex_iff.mpr ⟨some_, clear⟩).2
  refine ⟨⟨?_, ?_⟩, fromHex_toText, ?_⟩
  · rintro ⟨exact_, -⟩ ⟨length, signed, plus⟩
    exact (isHex_iff.mp (exact_.mp (fromHex_isSome_iff.mpr ⟨length, signed⟩))).2 plus
  · intro plain
    refine ⟨⟨?_, fun hex => (isHex_iff.mp hex).1⟩, fun id read => printed plain read⟩
    intro read
    obtain ⟨length, signed⟩ := fromHex_isSome_iff.mp read
    exact isHex_iff.mpr ⟨read, fun plus => plain ⟨length, signed, plus⟩⟩
  · intro other id plain also read otherRead
    exact (printed plain read).symm.trans (printed also otherRead)

/-- A sign in the place of every first digit. -/
def signedZeros : String := String.ofList ((List.replicate 16 ['+', '0']).flatten)

/-- A text that is not hex is read. -/
theorem fromHex_signed : (fromHex signedZeros).isSome = true ∧ ¬ IsHex signedZeros := by
  have chars : signedZeros.toList = (List.replicate 16 ['+', '0']).flatten := String.toList_ofList
  refine ⟨?_, ?_⟩
  · rw [fromHex_isSome_iff, chars]
    decide
  · rintro ⟨-, digits⟩
    rw [chars] at digits
    exact absurd (digits '+' (by decide)) (by decide)

/-- Upper case and lower case name the same identifier. -/
theorem fromHex_exact_iff_cases :
    (String.ofList (List.replicate 32 'A')).toList.map Char.toLower =
      (String.ofList (List.replicate 32 'a')).toList.map Char.toLower := by
  have upper : (String.ofList (List.replicate 32 'A')).toList = List.replicate 32 'A' :=
    String.toList_ofList
  have lower : (String.ofList (List.replicate 32 'a')).toList = List.replicate 32 'a' :=
    String.toList_ofList
  refine (fromHex_exact_iff (String.ofList (List.replicate 32 'A'))).2.2
    (String.ofList (List.replicate 32 'a')) ⟨List.replicate 16 170, rfl⟩ ?_ ?_ ?_ ?_
  · rintro ⟨-, -, plus⟩
    rw [upper] at plus
    exact absurd plus (by decide)
  · rintro ⟨-, -, plus⟩
    rw [lower] at plus
    exact absurd plus (by decide)
  · refine fromHex_of_hexPairs ?_
    rw [upper]
    rfl
  · refine fromHex_of_hexPairs ?_
    rw [lower]
    rfl

end SettlementId

end Safrod.Legacy

import Mathlib.Data.List.TakeWhile
import Safrod.Bitcoin.Rpc
import Safrod.Library.Text

/-!
# Amounts of Bitcoin Core

`btcToSats` reads the decimal numbers of at most eight places, and nothing else, without
losing anything.

A number with the digits `whole` before the point and `frac` after it is
`digitsValue (whole ++ frac)` over `10 ^ frac.length`, so it stands for so many satoshis
exactly where these, times `10 ^ frac.length`, are its digits times `10 ^ 8`.
-/

set_option autoImplicit false

namespace Safrod

/-! ## Decimal numbers -/

/-- Digits, and after a point, if there is one, eight digits at most. -/
structure IsDecimal (text : String) (whole frac : List Char) : Prop where
  shape : text.toList = whole ∧ frac = [] ∨ text.toList = whole ++ '.' :: frac
  nonempty : whole ≠ []
  wholeDigits : ∀ c ∈ whole, c.isDigit = true
  fracDigits : ∀ c ∈ frac, c.isDigit = true
  places : frac.length ≤ 8

/-- The number is so many satoshis. -/
def AreSats (sats : ℕ) (whole frac : List Char) : Prop :=
  sats * 10 ^ frac.length = digitsValue (whole ++ frac) * 10 ^ 8

/-- The largest amount of an unsigned 64-bit integer. -/
def u64Max : ℕ := 2 ^ 64 - 1

/-- How Bitcoin Core prints an amount: a point and eight places. -/
def btcText (sats : ℕ) : String :=
  String.ofList (Nat.toDigits 10 (sats / 10 ^ 8) ++ '.' ::
    (List.replicate (8 - (Nat.toDigits 10 (sats % 10 ^ 8)).length) '0' ++
      Nat.toDigits 10 (sats % 10 ^ 8)))

/-! ## The value of digits -/

theorem digitsValue_eq (digits : List Char) : digitsValue digits = Nat.ofDigitChars 10 digits 0 :=
  rfl

theorem digitsValue_append (first second : List Char) : digitsValue (first ++ second) =
    digitsValue first * 10 ^ second.length + digitsValue second := by
  rw [digitsValue_eq, digitsValue_eq, digitsValue_eq, Nat.ofDigitChars_append,
    Nat.ofDigitChars_eq_ofDigitChars_zero, Nat.mul_comm]

theorem digitsValue_zeros (count : ℕ) : digitsValue (List.replicate count '0') = 0 := by
  rw [digitsValue_eq, Nat.ofDigitChars_replicate_zero, Nat.mul_zero]

/-- The places are filled up to eight. -/
theorem digitsValue_padded (frac : List Char) :
    digitsValue (frac ++ List.replicate (8 - frac.length) '0') =
      digitsValue frac * 10 ^ (8 - frac.length) := by
  rw [digitsValue_append, digitsValue_zeros, List.length_replicate, Nat.add_zero]

/-- The satoshis a number of at most eight places is. -/
theorem areSats_iff {sats : ℕ} {whole frac : List Char} (places : frac.length ≤ 8) :
    AreSats sats whole frac ↔ sats = digitsValue whole * 100_000_000 +
      digitsValue (frac ++ List.replicate (8 - frac.length) '0') := by
  have split : 10 ^ frac.length * 10 ^ (8 - frac.length) = 10 ^ 8 := by
    rw [← Nat.pow_add, Nat.add_sub_cancel' places]
  have scaled : digitsValue (whole ++ frac) * 10 ^ 8 = (digitsValue whole * 10 ^ 8 +
      digitsValue (frac ++ List.replicate (8 - frac.length) '0')) * 10 ^ frac.length := by
    rw [digitsValue_append, digitsValue_padded, Nat.add_mul, Nat.add_mul, Nat.mul_right_comm,
      Nat.mul_assoc (digitsValue frac), Nat.mul_comm (10 ^ (8 - frac.length)), split]
  have power : (100_000_000 : ℕ) = 10 ^ 8 := by decide
  rw [AreSats, scaled, power]
  exact Nat.mul_left_inj (Nat.pos_iff_ne_zero.mp (Nat.pow_pos (by decide)))

/-- A number of at most eight places is a whole number of satoshis. -/
theorem exists_areSats (whole : List Char) {frac : List Char} (places : frac.length ≤ 8) :
    ∃ sats, AreSats sats whole frac :=
  ⟨_, (areSats_iff places).mpr rfl⟩

/-! ## What is read -/

theorem not_point_of_isDigit {c : Char} (digit : c.isDigit = true) : c ≠ '.' := by
  rintro rfl
  cases digit

/-- What stands before the point and after it. -/
theorem IsDecimal.split {text : String} {whole frac : List Char}
    (decimal : IsDecimal text whole frac) : text.toList.takeWhile (· ≠ '.') = whole ∧
      (text.toList.dropWhile (· ≠ '.')).drop 1 = frac := by
  have clear : ∀ c ∈ whole, decide (c ≠ '.') = true :=
    fun c member => decide_eq_true (not_point_of_isDigit (decimal.wholeDigits c member))
  rcases decimal.shape with ⟨shape, rfl⟩ | shape
  · rw [shape, List.takeWhile_eq_self_iff.mpr clear, List.dropWhile_eq_nil_iff.mpr clear]
    exact ⟨rfl, rfl⟩
  · rw [shape, List.takeWhile_append_of_pos clear, List.dropWhile_append_of_pos clear]
    simp

/-- A text whose two parts are digits is a decimal number. -/
theorem isDecimal_of_split {text : String}
    (nonempty : text.toList.takeWhile (· ≠ '.') ≠ [])
    (digits : ∀ c ∈ text.toList.takeWhile (· ≠ '.') ++
      (text.toList.dropWhile (· ≠ '.')).drop 1, c.isDigit = true)
    (places : ((text.toList.dropWhile (· ≠ '.')).drop 1).length ≤ 8) :
    IsDecimal text (text.toList.takeWhile (· ≠ '.'))
      ((text.toList.dropWhile (· ≠ '.')).drop 1) where
  shape := by
    have parts : text.toList.takeWhile (· ≠ '.') ++ text.toList.dropWhile (· ≠ '.') =
        text.toList := List.takeWhile_append_dropWhile
    cases rest : text.toList.dropWhile (· ≠ '.') with
    | nil =>
        rw [rest, List.append_nil] at parts
        exact .inl ⟨parts.symm, rfl⟩
    | cons c frac =>
        rw [rest, Text.eq_of_dropWhile_cons rest] at parts
        exact .inr parts.symm
  nonempty := nonempty
  wholeDigits c member := digits c (List.mem_append_left _ member)
  fracDigits c member := digits c (List.mem_append_right _ member)
  places := places

/-- An amount is read where it and its part before the point fit. -/
theorem checked_amount_eq_some (whole padded sats : ℕ) :
    ((checkedU64 whole).bind fun whole => (checkedU64 (whole * 100_000_000)).bind fun sats =>
      checkedU64 (sats + padded)) = some sats ↔
        sats = whole * 100_000_000 + padded ∧ sats < 2 ^ 64 := by
  unfold checkedU64
  constructor
  · intro read
    split at read
    · rw [Option.bind_some] at read
      split at read
      · rw [Option.bind_some] at read
        split at read
        · cases read
          exact ⟨rfl, by assumption⟩
        · cases read
      · cases read
    · cases read
  · rintro ⟨rfl, fits⟩
    have product_fits : whole * 100_000_000 < 2 ^ 64 :=
      Nat.lt_of_le_of_lt (Nat.le_add_right _ padded) fits
    have whole_fits : whole < 2 ^ 64 :=
      Nat.lt_of_le_of_lt (Nat.le_mul_of_pos_right whole (by decide)) product_fits
    rw [if_pos whole_fits, Option.bind_some, if_pos product_fits, Option.bind_some, if_pos fits]

/-- A decimal number is read as the satoshis it is, where these fit. -/
theorem btcToSats_of_isDecimal {text : String} {whole frac : List Char}
    (decimal : IsDecimal text whole frac) (sats : ℕ) :
    btcToSats text = .ok sats ↔ AreSats sats whole frac ∧ sats ≤ u64Max := by
  obtain ⟨before, after⟩ := decimal.split
  have accepted : ¬ (whole.isEmpty = true ∨ 8 < frac.length ∨
      ¬ (whole ++ frac).all Char.isDigit = true) := by
    rintro (empty | long | other)
    · exact decimal.nonempty (List.isEmpty_iff.mp empty)
    · exact absurd decimal.places (by omega)
    · refine other (List.all_eq_true.mpr ?_)
      intro c member
      rcases List.mem_append.mp member with left | right
      · exact decimal.wholeDigits c left
      · exact decimal.fracDigits c right
  have read := checked_amount_eq_some (digitsValue whole)
    (digitsValue (frac ++ List.replicate (8 - frac.length) '0')) sats
  have bound : sats ≤ u64Max ↔ sats < 2 ^ 64 := by
    unfold u64Max
    omega
  rw [areSats_iff decimal.places, bound, ← read]
  simp only [btcToSats, before, after, if_neg accepted]
  split
  · rename_i failed
    rw [failed]
    exact iff_of_false (by rintro ⟨⟩) (by rintro ⟨⟩)
  · rename_i found done
    rw [done]
    exact ⟨fun same => congrArg some (Except.ok.inj same),
      fun same => congrArg Except.ok (Option.some.inj same)⟩

/-- Only decimal numbers are read. -/
theorem isDecimal_of_btcToSats {text : String} {sats : ℕ} (read : btcToSats text = .ok sats) :
    ∃ whole frac, IsDecimal text whole frac := by
  unfold btcToSats at read
  dsimp only at read
  split at read
  · cases read
  · rename_i accepted
    obtain ⟨some_, places, digits⟩ := (not_or.trans (and_congr_right fun _ => not_or)).mp accepted
    refine ⟨_, _, isDecimal_of_split ?_ ?_ (Nat.not_lt.mp places)⟩
    · intro empty
      exact some_ (List.isEmpty_iff.mpr empty)
    · exact List.all_eq_true.mp (not_not.mp digits)

theorem btcToSats_ok_iff (text : String) (sats : ℕ) : btcToSats text = .ok sats ↔
    ∃ whole frac, IsDecimal text whole frac ∧ AreSats sats whole frac ∧ sats ≤ u64Max := by
  constructor
  · intro read
    obtain ⟨whole, frac, decimal⟩ := isDecimal_of_btcToSats read
    exact ⟨whole, frac, decimal, (btcToSats_of_isDecimal decimal sats).mp read⟩
  · rintro ⟨whole, frac, decimal, are⟩
    exact (btcToSats_of_isDecimal decimal sats).mpr are

/-- A decimal number is read where its satoshis fit. -/
theorem btcToSats_accepts_iff (text : String) : (∃ sats, btcToSats text = .ok sats) ↔
    ∃ whole frac, IsDecimal text whole frac ∧
      digitsValue (whole ++ frac) * 10 ^ 8 ≤ u64Max * 10 ^ frac.length := by
  constructor
  · rintro ⟨sats, read⟩
    obtain ⟨whole, frac, decimal, are, fits⟩ := (btcToSats_ok_iff text sats).mp read
    refine ⟨whole, frac, decimal, ?_⟩
    unfold AreSats at are
    rw [← are]
    exact Nat.mul_le_mul_right _ fits
  · rintro ⟨whole, frac, decimal, fits⟩
    obtain ⟨sats, are⟩ := exists_areSats whole decimal.places
    refine ⟨sats, (btcToSats_of_isDecimal decimal sats).mpr ⟨are, ?_⟩⟩
    unfold AreSats at are
    rw [← are] at fits
    exact Nat.le_of_mul_le_mul_right fits (Nat.pow_pos (by decide))

/-- What is not read is malformed. -/
theorem btcToSats_error {text : String} {error : RpcError}
    (refused : btcToSats text = .error error) :
    error = .malformed ("bad amount " ++ text) := by
  unfold btcToSats at refused
  dsimp only at refused
  split at refused
  · exact (Except.error.inj refused).symm
  · split at refused
    · exact (Except.error.inj refused).symm
    · cases refused

/-! ## What is printed -/

/-- What Bitcoin Core prints is a decimal number of eight places. -/
theorem isDecimal_btcText (sats : ℕ) : IsDecimal (btcText sats) (Nat.toDigits 10 (sats / 10 ^ 8))
    (List.replicate (8 - (Nat.toDigits 10 (sats % 10 ^ 8)).length) '0' ++
      Nat.toDigits 10 (sats % 10 ^ 8)) where
  shape := .inr String.toList_ofList
  nonempty := Nat.toDigits_ne_nil
  wholeDigits c member := Text.isDigit_of_mem_toDigits member
  fracDigits c member := by
    rcases List.mem_append.mp member with zero | digit
    · rw [List.eq_of_mem_replicate zero]
      rfl
    · exact Text.isDigit_of_mem_toDigits digit
  places := by
    have small : sats % 10 ^ 8 < 10 ^ 8 := Nat.mod_lt _ (by decide)
    have short := (Nat.length_toDigits_le_iff (by decide) (by decide)).mpr small
    rw [List.length_append, List.length_replicate]
    omega

theorem areSats_btcText (sats : ℕ) : AreSats sats (Nat.toDigits 10 (sats / 10 ^ 8))
    (List.replicate (8 - (Nat.toDigits 10 (sats % 10 ^ 8)).length) '0' ++
      Nat.toDigits 10 (sats % 10 ^ 8)) := by
  have small : sats % 10 ^ 8 < 10 ^ 8 := Nat.mod_lt _ (by decide)
  have short := (Nat.length_toDigits_le_iff (by decide) (by decide)).mpr small
  have full : (List.replicate (8 - (Nat.toDigits 10 (sats % 10 ^ 8)).length) '0' ++
      Nat.toDigits 10 (sats % 10 ^ 8)).length = 8 := by
    rw [List.length_append, List.length_replicate]
    omega
  unfold AreSats
  rw [digitsValue_append, full, digitsValue_append, digitsValue_zeros, Nat.zero_mul, Nat.zero_add,
    digitsValue_eq, digitsValue_eq, Nat.ofDigitChars_ten_toDigits, Nat.ofDigitChars_ten_toDigits]
  congr 1
  omega

/-- **Exactly the decimal numbers of at most eight places whose satoshis fit are read, as what
they are; what Bitcoin Core prints is read back; and every other text is malformed.** -/
theorem btcToSats_exact :
    (∀ text sats, btcToSats text = .ok sats ↔
      ∃ whole frac, IsDecimal text whole frac ∧ AreSats sats whole frac ∧ sats ≤ u64Max) ∧
    (∀ text, (∃ sats, btcToSats text = .ok sats) ↔ ∃ whole frac, IsDecimal text whole frac ∧
      digitsValue (whole ++ frac) * 10 ^ 8 ≤ u64Max * 10 ^ frac.length) ∧
    (∀ sats, sats ≤ u64Max → btcToSats (btcText sats) = .ok sats) ∧
    ∀ text, btcToSats text = .error (.malformed ("bad amount " ++ text)) ∨
      ∃ sats, sats ≤ u64Max ∧ btcToSats text = .ok sats := by
  refine ⟨btcToSats_ok_iff, btcToSats_accepts_iff, ?_, ?_⟩
  · intro sats fits
    exact (btcToSats_of_isDecimal (isDecimal_btcText sats) sats).mpr
      ⟨areSats_btcText sats, fits⟩
  · intro text
    cases read : btcToSats text with
    | error error => exact .inl (congrArg Except.error (btcToSats_error read))
    | ok sats =>
        obtain ⟨_, _, _, _, fits⟩ := (btcToSats_ok_iff text sats).mp read
        exact .inr ⟨sats, fits, rfl⟩

/-- The smallest amount of a transaction that pays. -/
theorem btcToSats_exact_one : btcToSats (btcText 1) = .ok 1 :=
  btcToSats_exact.2.2.1 1 (by decide)

example : btcToSats "0.00025000" = .ok 25_000 := by rfl

end Safrod

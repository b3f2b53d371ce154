import Safrod.Api.Invoices
import Safrod.Api.Payouts

/-!
# Validated amounts

An amount passes one of four checks before it is stored: of an invoice, of a payment, of a
top-up, and of a quote.

* `validators_agree_iff`: the checks of invoices and of quotes agree with the one of payments
  except below a satoshi, which a payment does not go.
* `amounts_storable`: what passes fits its column, and is positive.
* `quoteU128_eq`: the arithmetic of a quote stays within its words.
-/

set_option autoImplicit false

namespace Safrod

/-! ## Whether an amount can be paid -/

theorem checkRange_eq_ok {amountMsat : ℕ} :
    checkRange amountMsat = .ok () ↔ 1_000 ≤ amountMsat ∧ toSatsFloor amountMsat ≤ maxSats := by
  unfold checkRange
  have least : toSatsFloor amountMsat = 0 ↔ ¬ 1_000 ≤ amountMsat := by
    rw [toSatsFloor, msatPerSat]
    omega
  split
  · rename_i range
    refine iff_of_false (fun done => by cases done) ?_
    rintro ⟨present, within⟩
    rcases range with none | large
    · exact least.mp none present
    · exact absurd within (Nat.not_le_of_lt large)
  · rename_i range
    obtain ⟨present, within⟩ := not_or.mp range
    exact iff_of_true rfl ⟨not_not.mp (present ∘ least.mpr), Nat.not_lt.mp within⟩

/-- An invoice request for millisatoshis. -/
theorem InvoiceRequest.invoiceAmount_msat {request : InvoiceRequest} {msat : ℕ}
    (given : request.amountMsat = some msat) (only : request.amountSat = none) :
    (∃ amountMsat, request.invoiceAmount = .ok amountMsat) ↔
      0 < msat ∧ toSatsFloor msat ≤ maxSats := by
  unfold InvoiceRequest.invoiceAmount
  rw [given, only]
  dsimp only
  split
  · rename_i range
    refine iff_of_false (by rintro ⟨_, ⟨⟩⟩) ?_
    rintro ⟨positive, within⟩
    rcases range with rfl | large
    · exact absurd positive (Nat.lt_irrefl 0)
    · exact absurd within (Nat.not_le_of_lt large)
  · rename_i range
    obtain ⟨nonzero, within⟩ := not_or.mp range
    exact iff_of_true ⟨msat, rfl⟩ ⟨Nat.pos_of_ne_zero nonzero, Nat.not_lt.mp within⟩

/-- The Bitcoin of a quote is a satoshi at least when the source amount is worth one. -/
theorem Quoted.satoshi_iff {source target : Currency} {sourceMinor : ℕ} {priced : QuoteCalc}
    (quoted : Quoted source target sourceMinor priced) :
    1_000 ≤ priced.btcAmountMsat ↔ 3 * source.minorPerUsd ≤ 5_000 * sourceMinor := by
  rw [quoted.btcAmountMsat]
  cases source <;>
    simp only [Currency.minorPerUsd, msatPerBtc, simulatedBtcUsd] <;>
    omega

/-- **The validators agree where an amount is no part of a satoshi.** An invoice is taken for
an amount exactly if a payment is, when the amount is none or a satoshi at least, and a
quote can be paid exactly if its source amount is worth a satoshi. -/
theorem validators_agree_iff (request : InvoiceRequest) (msat : ℕ) (source target : Currency)
    (sourceMinor : ℕ) :
    (request.amountMsat = some msat → request.amountSat = none → msat < 2 ^ 64 →
      (((∃ amountMsat, request.invoiceAmount = .ok amountMsat) ↔ checkRange msat = .ok ()) ↔
        msat = 0 ∨ 1_000 ≤ msat)) ∧
    ∀ priced, quote source target sourceMinor = .ok priced →
      (checkRange priced.btcAmountMsat = .ok () ↔
        3 * source.minorPerUsd ≤ 5_000 * sourceMinor) := by
  constructor
  · intro given only _
    rw [InvoiceRequest.invoiceAmount_msat given only, checkRange_eq_ok]
    constructor
    · intro agree
      by_cases small : 1_000 ≤ msat
      · exact .inr small
      · have below : toSatsFloor msat ≤ maxSats := by
          rw [toSatsFloor, msatPerSat]
          omega
        refine .inl (Nat.eq_zero_of_not_pos ?_)
        exact fun positive => small (agree.mp ⟨positive, below⟩).1
    · rintro (rfl | present)
      · refine iff_of_false (fun both => absurd both.1 (Nat.lt_irrefl 0)) ?_
        exact fun both => absurd both.1 (by decide)
      · exact and_congr_left' (iff_of_true (Nat.lt_of_lt_of_le (by decide) present) present)
  · intro priced given
    have quoted := quoted_of_quote given
    rw [checkRange_eq_ok, ← quoted.satoshi_iff]
    refine and_iff_left ?_
    have within := quoted.btcWithin
    rw [toSatsFloor, msatPerSat]
    omega

/-- The request of an invoice for a millisatoshi. -/
def msatRequest : InvoiceRequest where
  amountMsat := some 1
  amountSat := none
  description := ""
  expirySecs := none
  metadata := none

/-- An invoice for a millisatoshi is created that no payment pays, and 24 minor units of NGN
are quoted in KES for Bitcoin that no payment sends. -/
theorem validators_disagree :
    (msatRequest.invoiceAmount = .ok 1 ∧ checkRange 1 ≠ .ok ()) ∧
      ∃ priced, quote .ngn .kes 24 = .ok priced ∧ checkRange priced.btcAmountMsat ≠ .ok () :=
  ⟨⟨rfl, nofun⟩, _, rfl, nofun⟩

/-! ## What is stored -/

/-- An amount its column takes: in the range of a `bigint`, and positive. -/
structure Storable (amount : ℕ) : Prop where
  positive : 1 ≤ amount
  fits : amount ≤ i64Max

theorem Storable.toI64_eq {amount : ℕ} (storable : Storable amount) :
    toI64 amount = .ok (amount : ℤ) ∧ (0 : ℤ) < amount :=
  ⟨toI64_eq_ok.mpr ⟨storable.fits, rfl⟩, Int.natCast_pos.mpr storable.positive⟩

theorem toMsat_of_le {sats : ℕ} (within : sats ≤ maxSats) :
    toMsat sats = some (sats * msatPerSat) := by
  refine if_pos ?_
  simp only [maxSats, msatPerSat] at *
  omega

theorem InvoiceRequest.invoiceAmount_storable {request : InvoiceRequest} {amountMsat : ℕ}
    (accepted : request.invoiceAmount = .ok amountMsat) : Storable amountMsat := by
  unfold InvoiceRequest.invoiceAmount at accepted
  split at accepted
  · cases accepted
  · cases accepted
  · rename_i sat _ _
    split at accepted
    · cases accepted
    · rename_i sats given
      obtain ⟨nonzero, given⟩ := Except.not_and_of_ite_error given
      obtain ⟨within, given⟩ := Except.not_and_of_ite_error given
      cases given
      rw [toMsat_of_le (Nat.not_lt.mp within)] at accepted
      cases accepted
      constructor
      · exact Nat.mul_pos (Nat.pos_of_ne_zero nonzero) (by decide)
      · refine le_i64Max_of_toSatsFloor_le ?_
        rw [toSatsFloor, Nat.mul_div_cancel _ (by decide)]
        exact Nat.not_lt.mp within
  · obtain ⟨range, accepted⟩ := Except.not_and_of_ite_error accepted
    cases accepted
    obtain ⟨nonzero, within⟩ := not_or.mp range
    exact ⟨Nat.pos_of_ne_zero nonzero, le_i64Max_of_toSatsFloor_le (Nat.not_lt.mp within)⟩

theorem checkRange_storable {amountMsat : ℕ} (accepted : checkRange amountMsat = .ok ()) :
    Storable amountMsat := by
  obtain ⟨present, within⟩ := checkRange_eq_ok.mp accepted
  exact ⟨Nat.le_trans (by decide) present, le_i64Max_of_toSatsFloor_le within⟩

theorem TopUp.check_storable {request : TopUp} {currency : Currency}
    (accepted : request.check = .ok currency) : Storable request.minorUnits := by
  obtain ⟨parsed, -, accepted⟩ := Except.exists_of_bind_eq_ok accepted
  obtain ⟨range, -⟩ := Except.not_and_of_ite_error accepted
  obtain ⟨nonzero, within⟩ := not_or.mp range
  refine ⟨Nat.pos_of_ne_zero nonzero, (Nat.not_lt.mp within).trans ?_⟩
  decide

/-- The rate of a quote is positive, like its amounts. -/
theorem Quoted.storable {source target : Currency} {sourceMinor : ℕ} {priced : QuoteCalc}
    (quoted : Quoted source target sourceMinor priced) :
    Storable sourceMinor ∧ Storable priced.targetMinor ∧ Storable priced.ratePpm ∧
      Storable priced.btcAmountMsat := by
  obtain ⟨sourceFits, targetFits, rateFits, btcFits⟩ := quoted.fits
  have rated : 1 ≤ priced.ratePpm := by
    rw [quoted.ratePpm]
    cases source <;> cases target <;> decide
  exact ⟨⟨quoted.sourcePositive, by omega⟩, ⟨quoted.targetPositive, targetFits⟩,
    ⟨rated, rateFits⟩, ⟨quoted.btcPositive, btcFits⟩⟩

/-! ## The words of a quote -/

/-- `u128` multiplication, where it does not overflow. -/
def mulU128 (left right : ℕ) : Option ℕ :=
  if left * right < 2 ^ 128 then some (left * right) else none

/-- Division, where it is not by zero. -/
def divU128 (left right : ℕ) : Option ℕ := if right = 0 then none else some (left / right)

/-- `u64` multiplication, where it does not overflow. -/
def mulU64 (left right : ℕ) : Option ℕ :=
  if left * right < 2 ^ 64 then some (left * right) else none

/-- The arithmetic of `quote` on words: `none` where an operation overflows or divides by
zero. -/
def quoteU128 (source target : Currency) (sourceMinor : ℕ) :
    Option (Except SandboxError QuoteCalc) :=
  if source = target then some (.error .sameCurrency)
  else if sourceMinor = 0 then some (.error .badAmount)
  else do
    let grossTarget ← divU128 (← mulU128 sourceMinor target.minorPerUsd) source.minorPerUsd
    let targetMinor ← divU128 (← mulU128 grossTarget (10_000 - simulatedFeeBps)) 10_000
    let ratePpm ← divU128 (← mulU128 target.minorPerUsd 1_000_000) source.minorPerUsd
    let btcMsat ← divU128 (← mulU128 sourceMinor msatPerBtc)
      (← mulU128 source.minorPerUsd simulatedBtcUsd)
    let supply ← mulU64 maxSats 1_000
    return do
      let btcAmountMsat ← toU64 btcMsat
      let targetMinor ← toU64 targetMinor
      if targetMinor = 0 ∨ btcAmountMsat = 0 ∨ supply < btcAmountMsat then .error .badAmount
      else do
        let ratePpm ← toU64 ratePpm
        return ⟨targetMinor, ratePpm, btcAmountMsat⟩

theorem Currency.minorPerUsd_le (currency : Currency) : currency.minorPerUsd ≤ 150_000 := by
  cases currency <;> decide

theorem mulU128_of_le {left right most factor : ℕ} (small : left ≤ most) (price : right ≤ factor)
    (fits : most * factor < 2 ^ 128) : mulU128 left right = some (left * right) :=
  if_pos (Nat.lt_of_le_of_lt (Nat.mul_le_mul small price) fits)

theorem divU128_of_pos {left right : ℕ} (positive : 0 < right) :
    divU128 left right = some (left / right) := if_neg (Nat.pos_iff_ne_zero.mp positive)

/-- No operation of a quote of a 64-bit amount overflows. -/
theorem quoteU128_eq (source target : Currency) {sourceMinor : ℕ} (word : sourceMinor < 2 ^ 64) :
    quoteU128 source target sourceMinor = some (quote source target sourceMinor) := by
  have small : sourceMinor ≤ 2 ^ 64 := Nat.le_of_lt word
  have sourcePrice := source.minorPerUsd_le
  have targetPrice := target.minorPerUsd_le
  have positive := source.minorPerUsd_pos
  have converted : sourceMinor * target.minorPerUsd / source.minorPerUsd ≤ 2 ^ 64 * 150_000 :=
    (Nat.div_le_self _ _).trans (Nat.mul_le_mul small targetPrice)
  have gross : divU128 (sourceMinor * target.minorPerUsd) source.minorPerUsd = some _ :=
    divU128_of_pos positive
  have rate : divU128 (target.minorPerUsd * 1_000_000) source.minorPerUsd = some _ :=
    divU128_of_pos positive
  have btc : divU128 (sourceMinor * msatPerBtc) (source.minorPerUsd * simulatedBtcUsd) = some _ :=
    divU128_of_pos (Nat.mul_pos positive (by decide))
  have net : ∀ amount, divU128 amount 10_000 = some (amount / 10_000) :=
    fun amount => divU128_of_pos (by decide)
  have supply : mulU64 maxSats 1_000 = some (maxSats * 1_000) := rfl
  unfold quoteU128 quote
  split
  · rfl
  split
  · rfl
  · simp only [mulU128_of_le small targetPrice (by decide), gross,
      mulU128_of_le converted (Nat.le_refl (10_000 - simulatedFeeBps)) (by decide), net,
      mulU128_of_le targetPrice (Nat.le_refl 1_000_000) (by decide), rate,
      mulU128_of_le small (Nat.le_refl msatPerBtc) (by decide),
      mulU128_of_le sourcePrice (Nat.le_refl simulatedBtcUsd) (by decide), btc, supply,
      Option.bind_eq_bind, Option.bind_some]
    rfl

/-- **What passes validation is storable.** The amounts of an accepted invoice, payment, top-up
or quote are positive and fit their columns, and no arithmetic on the way overflows or
divides by zero. -/
theorem amounts_storable :
    (∀ (request : InvoiceRequest) (amountMsat : ℕ), request.invoiceAmount = .ok amountMsat →
      Storable amountMsat) ∧
    (∀ amountMsat, checkRange amountMsat = .ok () → Storable amountMsat) ∧
    (∀ (request : TopUp) (currency : Currency), request.check = .ok currency →
      Storable request.minorUnits) ∧
    (∀ source target sourceMinor priced, quote source target sourceMinor = .ok priced →
      Storable sourceMinor ∧ Storable priced.targetMinor ∧ Storable priced.ratePpm ∧
        Storable priced.btcAmountMsat) ∧
    (∀ amount, Storable amount → toI64 amount = .ok (amount : ℤ) ∧ (0 : ℤ) < amount) ∧
    (∀ sats, satoshisFromRequest sats = .ok sats → toMsat sats = some (sats * msatPerSat)) ∧
    ∀ source target sourceMinor, sourceMinor < 2 ^ 64 →
      quoteU128 source target sourceMinor = some (quote source target sourceMinor) := by
  refine ⟨?_, ?_, ?_, ?_, ?_, ?_, ?_⟩
  · intro request amountMsat accepted
    exact InvoiceRequest.invoiceAmount_storable accepted
  · intro amountMsat accepted
    exact checkRange_storable accepted
  · intro request currency accepted
    exact TopUp.check_storable accepted
  · intro source target sourceMinor priced given
    exact (quoted_of_quote given).storable
  · intro amount storable
    exact storable.toI64_eq
  · intro sats given
    obtain ⟨-, given⟩ := Except.not_and_of_ite_error given
    exact toMsat_of_le (Nat.not_lt.mp (Except.not_and_of_ite_error given).1)
  · intro source target sourceMinor word
    exact quoteU128_eq source target word

end Safrod

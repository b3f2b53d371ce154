import Safrod.Core.Money
import Safrod.Library.Table

/-!
# Simulated currencies, quotes and scenarios

Rates are fixed constants and the arithmetic is on integers: the 128-bit
computations of the source do not overflow on 64-bit amounts, so they are natural
numbers here, and only the conversions back to 64 bits are checked.
-/

set_option autoImplicit false

namespace Safrod

/-- The BTC price of every simulated quote. -/
def simulatedBtcUsd : ℕ := 60_000

def simulatedFeeBps : ℕ := 100

def msatPerBtc : ℕ := 100_000_000_000

inductive SandboxError where
  | unsupportedCurrency (code : String)
  | sameCurrency
  | badAmount
  | unknownScenario (name : String)
  deriving DecidableEq

/-- `Display for SandboxError`. -/
def SandboxError.toText : SandboxError → String
  | unsupportedCurrency code => "unsupported currency: " ++ code
  | sameCurrency => "source and target currency must differ"
  | badAmount => "amount must be greater than zero and within range"
  | unknownScenario name => "unknown scenario: " ++ name

/-! ## Currencies -/

inductive Currency where
  | usd
  | eur
  | ngn
  | kes
  deriving DecidableEq, Repr

namespace Currency

def code : Currency → String
  | usd => "USD"
  | eur => "EUR"
  | ngn => "NGN"
  | kes => "KES"

/-- Minor units of the currency per US dollar. -/
def minorPerUsd : Currency → ℕ
  | usd => 100
  | eur => 92
  | ngn => 150_000
  | kes => 12_900

theorem minorPerUsd_pos (currency : Currency) : 0 < currency.minorPerUsd := by
  cases currency <;> decide

/-- `FromStr for Currency`. -/
def parse (text : String) : Except SandboxError Currency :=
  let upper := text.toUpper
  if upper = "USD" then .ok usd
  else if upper = "EUR" then .ok eur
  else if upper = "NGN" then .ok ngn
  else if upper = "KES" then .ok kes
  else .error (.unsupportedCurrency upper)

/-- A currency is parsed from its own code. -/
theorem parse_code (currency : Currency) : parse currency.code = .ok currency := by
  have upper : currency.code.toUpper = currency.code := by
    rw [← String.toList_inj, String.toUpper, String.toList_map]
    cases currency <;> rfl
  unfold parse
  rw [upper]
  cases currency <;> rfl

end Currency

/-! ## Quotes -/

structure QuoteCalc where
  targetMinor : ℕ
  /-- Target minor units per source minor unit, in parts per million. -/
  ratePpm : ℕ
  btcAmountMsat : ℕ
  deriving DecidableEq

/-- `u64::try_from`. -/
def toU64 (value : ℕ) : Except SandboxError ℕ :=
  if value < 2 ^ 64 then .ok value else .error .badAmount

/-- The fee is taken from the target amount, and the Bitcoin leg is sized from the
source amount. -/
def quote (source target : Currency) (sourceMinor : ℕ) : Except SandboxError QuoteCalc :=
  if source = target then .error .sameCurrency
  else if sourceMinor = 0 then .error .badAmount
  else do
    let grossTarget := sourceMinor * target.minorPerUsd / source.minorPerUsd
    let targetMinor := grossTarget * (10_000 - simulatedFeeBps) / 10_000
    let ratePpm := target.minorPerUsd * 1_000_000 / source.minorPerUsd
    let btcMsat := sourceMinor * msatPerBtc / (source.minorPerUsd * simulatedBtcUsd)
    let btcAmountMsat ← toU64 btcMsat
    let targetMinor ← toU64 targetMinor
    if targetMinor = 0 ∨ btcAmountMsat = 0 ∨ maxSats * 1_000 < btcAmountMsat then .error .badAmount
    else do
      let ratePpm ← toU64 ratePpm
      return ⟨targetMinor, ratePpm, btcAmountMsat⟩

theorem toU64_eq_ok {value small : ℕ} (fits : toU64 value = .ok small) : small = value := by
  unfold toU64 at fits
  split at fits
  · cases fits
    rfl
  · cases fits

/-- What a quote that is given says: its amounts, which are positive, and an amount of
bitcoin that can exist. -/
structure Quoted (source target : Currency) (sourceMinor : ℕ) (priced : QuoteCalc) : Prop where
  sourcePositive : 0 < sourceMinor
  btcAmountMsat : priced.btcAmountMsat =
    sourceMinor * msatPerBtc / (source.minorPerUsd * simulatedBtcUsd)
  btcPositive : 0 < priced.btcAmountMsat
  btcWithin : priced.btcAmountMsat ≤ maxSats * 1_000
  targetMinor : priced.targetMinor = sourceMinor * target.minorPerUsd / source.minorPerUsd *
    (10_000 - simulatedFeeBps) / 10_000
  targetPositive : 0 < priced.targetMinor
  ratePpm : priced.ratePpm = target.minorPerUsd * 1_000_000 / source.minorPerUsd

theorem quoted_of_quote {source target : Currency} {sourceMinor : ℕ} {priced : QuoteCalc}
    (given : quote source target sourceMinor = .ok priced) :
    Quoted source target sourceMinor priced := by
  obtain ⟨-, given⟩ := Except.not_and_of_ite_error given
  obtain ⟨positive, given⟩ := Except.not_and_of_ite_error given
  obtain ⟨btcAmountMsat, sized, given⟩ := Except.exists_of_bind_eq_ok given
  obtain ⟨targetMinor, converted, given⟩ := Except.exists_of_bind_eq_ok given
  obtain ⟨range, given⟩ := Except.not_and_of_ite_error given
  obtain ⟨ratePpm, rated, given⟩ := Except.exists_of_bind_eq_ok given
  cases given
  cases toU64_eq_ok sized
  cases toU64_eq_ok converted
  cases toU64_eq_ok rated
  refine ⟨Nat.pos_of_ne_zero positive, rfl, ?_, ?_, rfl, ?_, rfl⟩
  · exact Nat.pos_of_ne_zero fun zero => range (.inr (.inl zero))
  · exact Nat.not_lt.mp fun large => range (.inr (.inr large))
  · exact Nat.pos_of_ne_zero fun zero => range (.inl zero)

/-- The amounts of a quote are far from the end of a `bigint` column. -/
theorem Quoted.fits {source target : Currency} {sourceMinor : ℕ} {priced : QuoteCalc}
    (quoted : Quoted source target sourceMinor priced) :
    2 * sourceMinor ≤ i64Max ∧ priced.targetMinor ≤ i64Max ∧ priced.ratePpm ≤ i64Max ∧
      priced.btcAmountMsat ≤ i64Max := by
  obtain ⟨-, sized, -, within, converted, -, rated⟩ := quoted
  cases source <;> cases target <;>
    simp only [Currency.minorPerUsd, msatPerBtc, simulatedBtcUsd, simulatedFeeBps, maxSats,
      i64Max] at * <;>
    omega

/-! ## Scenarios -/

/-- What the simulated destination will do. A timeout is an ambiguous answer: the
payout may or may not have happened. -/
inductive Scenario where
  | success
  | failure
  | timeout
  deriving DecidableEq, Repr

namespace Scenario

def asStr : Scenario → String
  | success => "success"
  | failure => "failure"
  | timeout => "timeout"

/-- `FromStr for Scenario`. -/
def parse (text : String) : Except SandboxError Scenario :=
  if text = "success" then .ok success
  else if text = "failure" then .ok failure
  else if text = "timeout" then .ok timeout
  else .error (.unknownScenario text)

/-- A scenario is parsed from its own text only. -/
theorem parse_eq_ok {text : String} {scenario : Scenario} :
    parse text = .ok scenario ↔ text = scenario.asStr := by
  constructor
  · intro parsed
    unfold parse at parsed
    split at parsed
    · cases parsed
      assumption
    split at parsed
    · cases parsed
      assumption
    split at parsed
    · cases parsed
      assumption
    · cases parsed
  · rintro rfl
    cases scenario <;> rfl

end Scenario

end Safrod

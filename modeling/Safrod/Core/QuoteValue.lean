import Mathlib.Algebra.Order.Ring.Nat
import Mathlib.Data.Nat.Cast.Order.Basic
import Mathlib.Tactic.Ring
import Safrod.Core.Sandbox

/-!
# What rounding is worth

Every amount of a quote is rounded down. The value lost is the client's: no chain of quotes
and no splitting of an amount gains anything (`no_value_from_rounding`), and the Bitcoin of
a quote lies between what is paid out and what is paid in (`btcLeg_covers`).
-/

set_option autoImplicit false

namespace Safrod

/-- What a quote leaves of an amount, without the fee. -/
def simulatedKeptBps : ℕ := 10_000 - simulatedFeeBps

/-! ## One quote -/

variable {source target : Currency}

/-- The target amount of a quote is worth the source amount without the fee, or less. -/
theorem Quoted.targetMinor_le {sourceMinor : ℕ} {priced : QuoteCalc}
    (quoted : Quoted source target sourceMinor priced) :
    priced.targetMinor * source.minorPerUsd * 10_000 ≤
      sourceMinor * target.minorPerUsd * simulatedKeptBps := by
  have gross : sourceMinor * target.minorPerUsd / source.minorPerUsd * source.minorPerUsd ≤
      sourceMinor * target.minorPerUsd := Nat.div_mul_le_self _ _
  have net : priced.targetMinor * 10_000 ≤
      sourceMinor * target.minorPerUsd / source.minorPerUsd * simulatedKeptBps := by
    rw [quoted.targetMinor]
    exact Nat.div_mul_le_self _ _
  calc priced.targetMinor * source.minorPerUsd * 10_000
      = priced.targetMinor * 10_000 * source.minorPerUsd := by ring
    _ ≤ sourceMinor * target.minorPerUsd / source.minorPerUsd * simulatedKeptBps *
          source.minorPerUsd := Nat.mul_le_mul_right _ net
    _ = sourceMinor * target.minorPerUsd / source.minorPerUsd * source.minorPerUsd *
          simulatedKeptBps := by ring
    _ ≤ sourceMinor * target.minorPerUsd * simulatedKeptBps := Nat.mul_le_mul_right _ gross

/-- Two amounts are converted to no more than their sum is. -/
theorem Quoted.targetMinor_add_le {first second : ℕ}
    {pricedFirst pricedSecond pricedBoth : QuoteCalc}
    (quotedFirst : Quoted source target first pricedFirst)
    (quotedSecond : Quoted source target second pricedSecond)
    (quotedBoth : Quoted source target (first + second) pricedBoth) :
    pricedFirst.targetMinor + pricedSecond.targetMinor ≤ pricedBoth.targetMinor := by
  rw [quotedFirst.targetMinor, quotedSecond.targetMinor, quotedBoth.targetMinor]
  refine (Nat.div_add_div_le_add_div).trans (Nat.div_le_div_right ?_)
  rw [← Nat.add_mul, Nat.add_mul first]
  exact Nat.mul_le_mul_right _ (Nat.div_add_div_le_add_div)

/-! ## Chains -/

/-- An amount is converted along a path of currencies, each quote for what the one before
it pays. -/
def convert (source : Currency) (amount : ℕ) : List Currency → Except SandboxError ℕ
  | [] => .ok amount
  | target :: rest => do
      let priced ← quote source target amount
      convert target priced.targetMinor rest

/-- A chain loses its fees at every hop. -/
theorem convert_le {path : List Currency} {amount final : ℕ}
    (converted : convert source amount path = .ok final) :
    final * source.minorPerUsd * 10_000 ^ path.length ≤
      amount * (path.getLastD source).minorPerUsd * simulatedKeptBps ^ path.length := by
  induction path generalizing source amount with
  | nil =>
      cases converted
      exact Nat.le_refl _
  | cons target rest ih =>
      obtain ⟨priced, given, later⟩ := Except.exists_of_bind_eq_ok converted
      have hop := (quoted_of_quote given).targetMinor_le
      have tail := ih later
      refine Nat.le_of_mul_le_mul_left ?_ target.minorPerUsd_pos
      rw [List.length_cons, List.getLastD_cons, pow_succ, pow_succ]
      calc target.minorPerUsd * (final * source.minorPerUsd * (10_000 ^ rest.length * 10_000))
          = final * target.minorPerUsd * 10_000 ^ rest.length *
              (source.minorPerUsd * 10_000) := by ring
        _ ≤ priced.targetMinor * (rest.getLastD target).minorPerUsd *
              simulatedKeptBps ^ rest.length * (source.minorPerUsd * 10_000) :=
            Nat.mul_le_mul_right _ tail
        _ = priced.targetMinor * source.minorPerUsd * 10_000 *
              ((rest.getLastD target).minorPerUsd * simulatedKeptBps ^ rest.length) := by ring
        _ ≤ amount * target.minorPerUsd * simulatedKeptBps *
              ((rest.getLastD target).minorPerUsd * simulatedKeptBps ^ rest.length) :=
            Nat.mul_le_mul_right _ hop
        _ = target.minorPerUsd * (amount * (rest.getLastD target).minorPerUsd *
              (simulatedKeptBps ^ rest.length * simulatedKeptBps)) := by ring

/-- A chain back to its currency pays less than went in. -/
theorem convert_cycle_lt {path : List Currency} {amount final : ℕ} (hops : path ≠ [])
    (cycle : path.getLastD source = source)
    (converted : convert source amount path = .ok final) : final < amount := by
  have loses := convert_le converted
  rw [cycle] at loses
  have positive : 0 < amount := by
    cases path with
    | nil => exact absurd rfl hops
    | cons target rest =>
        obtain ⟨priced, given, -⟩ := Except.exists_of_bind_eq_ok converted
        exact (quoted_of_quote given).sourcePositive
  have fees : simulatedKeptBps ^ path.length < 10_000 ^ path.length := by
    refine Nat.pow_lt_pow_left (by decide) ?_
    exact fun none => hops (List.length_eq_zero_iff.mp none)
  by_contra gains
  have price : 0 < amount * source.minorPerUsd := Nat.mul_pos positive source.minorPerUsd_pos
  have kept : amount * source.minorPerUsd * 10_000 ^ path.length ≤
      final * source.minorPerUsd * 10_000 ^ path.length :=
    Nat.mul_le_mul_right _ (Nat.mul_le_mul_right _ (Nat.not_lt.mp gains))
  exact absurd (kept.trans loses) (Nat.not_le_of_lt (Nat.mul_lt_mul_of_pos_left fees price))

/-- **Rounding gives no value away.** A chain of quotes of any length loses its fees, a chain
back to the first currency pays strictly less than went in, and an amount that is split is
never converted to more. -/
theorem no_value_from_rounding :
    (∀ source path initial final, convert source initial path = .ok final →
      final * source.minorPerUsd * 10_000 ^ path.length ≤
        initial * (path.getLastD source).minorPerUsd * 9_900 ^ path.length) ∧
    (∀ source path initial final, path ≠ [] → path.getLastD source = source →
      convert source initial path = .ok final → final < initial) ∧
    ∀ source target first second pricedFirst pricedSecond pricedBoth,
      quote source target first = .ok pricedFirst →
      quote source target second = .ok pricedSecond →
      quote source target (first + second) = .ok pricedBoth →
      pricedFirst.targetMinor + pricedSecond.targetMinor ≤ pricedBoth.targetMinor := by
  refine ⟨?_, ?_, ?_⟩
  · intro source path initial final converted
    exact convert_le converted
  · intro source path initial final hops cycle converted
    exact convert_cycle_lt hops cycle converted
  · intro source target first second pricedFirst pricedSecond pricedBoth one other both
    exact (quoted_of_quote one).targetMinor_add_le (quoted_of_quote other) (quoted_of_quote both)

/-- 5,000.00 NGN to KES and back. -/
theorem no_value_from_rounding_ngn : ∃ final,
    convert .ngn 500_000 [.kes, .ngn] = .ok final ∧ final < 500_000 := by
  obtain ⟨final, converted⟩ : ∃ final, convert .ngn 500_000 [.kes, .ngn] = .ok final := ⟨_, rfl⟩
  exact ⟨final, converted,
    no_value_from_rounding.2.1 .ngn [.kes, .ngn] 500_000 final (by decide) rfl converted⟩

/-! ## The Bitcoin leg -/

/-- The fee is worth more than the millisatoshi the Bitcoin of a quote is rounded by. -/
theorem Quoted.fee_covers {sourceMinor : ℕ} {priced : QuoteCalc}
    (quoted : Quoted source target sourceMinor priced) :
    priced.targetMinor * msatPerBtc ≤
      priced.btcAmountMsat * simulatedBtcUsd * target.minorPerUsd := by
  obtain ⟨-, sized, sizedPositive, -, converted, positive, -⟩ := quoted
  cases source <;> cases target <;>
    simp only [Currency.minorPerUsd, msatPerBtc, simulatedBtcUsd, simulatedFeeBps] at * <;>
    omega

/-- **The Bitcoin leg covers the payout.** At the simulated price the Bitcoin of a quote is
worth at least what is paid out, and at most what is paid in. -/
theorem btcLeg_covers {source target : Currency} {sourceMinor : ℕ} {priced : QuoteCalc}
    (given : quote source target sourceMinor = .ok priced) :
    priced.targetMinor * 10 ^ 11 ≤
        priced.btcAmountMsat * simulatedBtcUsd * target.minorPerUsd ∧
      priced.btcAmountMsat * simulatedBtcUsd * source.minorPerUsd ≤ sourceMinor * 10 ^ 11 := by
  have quoted := quoted_of_quote given
  refine ⟨quoted.fee_covers, ?_⟩
  rw [quoted.btcAmountMsat, Nat.mul_assoc, Nat.mul_comm simulatedBtcUsd]
  exact Nat.div_mul_le_self _ _

/-- The smallest amount of NGN a quote in KES is given for. -/
theorem btcLeg_covers_kes : ∃ priced, quote .ngn .kes 24 = .ok priced ∧
    priced.targetMinor * 10 ^ 11 ≤
      priced.btcAmountMsat * simulatedBtcUsd * Currency.kes.minorPerUsd := by
  obtain ⟨priced, given⟩ : ∃ priced, quote .ngn .kes 24 = .ok priced := ⟨_, rfl⟩
  exact ⟨priced, given, (btcLeg_covers given).1⟩

end Safrod

import Mathlib.Algebra.Group.Int.Defs
import Mathlib.Algebra.Group.Nat.Defs

/-!
# Bitcoin amounts

Amounts are unsigned 64-bit integers in the source; here they are natural
numbers, with the bounds the code checks written out.
-/

set_option autoImplicit false

namespace Safrod

def msatPerSat : ℕ := 1000

/-- Upper bound on one amount accepted from a client: 21 million bitcoin in
satoshis. -/
def maxSats : ℕ := 21_000_000 * 100_000_000

/-- `Millisatoshis::to_sats_floor`. -/
def toSatsFloor (msat : ℕ) : ℕ := msat / msatPerSat

/-- `Satoshis::to_msat`. -/
def toMsat (sats : ℕ) : Option ℕ :=
  if sats * msatPerSat < 2 ^ 64 then some (sats * msatPerSat) else none

/-- `amount as i64`. -/
def asI64 (amount : ℕ) : ℤ := Int.bmod amount (2 ^ 64)

/-- `amount as u64`. -/
def asU64 (amount : ℤ) : ℕ := (amount % 2 ^ 64).toNat

/-- `u64::to_be_bytes`. -/
def toBeBytes (value : ℕ) : List UInt8 :=
  (List.range 8).map fun i => UInt8.ofNat (value / 256 ^ (7 - i))

theorem toBeBytes_eq (value : ℕ) : toBeBytes value = UInt8.ofNat (value / 256 ^ 7) ::
    [UInt8.ofNat (value / 256 ^ 6), UInt8.ofNat (value / 256 ^ 5), UInt8.ofNat (value / 256 ^ 4),
      UInt8.ofNat (value / 256 ^ 3), UInt8.ofNat (value / 256 ^ 2), UInt8.ofNat (value / 256 ^ 1),
      UInt8.ofNat (value / 256 ^ 0)] := rfl

/-- A byte more of a number. -/
theorem div_pow_eq {first second k : ℕ} (high : first / 256 ^ (k + 1) = second / 256 ^ (k + 1))
    (low : UInt8.ofNat (first / 256 ^ k) = UInt8.ofNat (second / 256 ^ k)) :
    first / 256 ^ k = second / 256 ^ k := by
  rw [Nat.pow_succ, ← Nat.div_div_eq_div_mul, ← Nat.div_div_eq_div_mul] at high
  rw [← UInt8.toNat_inj, UInt8.toNat_ofNat', UInt8.toNat_ofNat'] at low
  rw [← Nat.div_add_mod (first / 256 ^ k) 256, high, low, Nat.div_add_mod]

/-- A word is told from its bytes. -/
theorem toBeBytes_inj {first second : ℕ} (small : first < 2 ^ 64) (also : second < 2 ^ 64)
    (same : toBeBytes first = toBeBytes second) : first = second := by
  simp only [toBeBytes_eq, List.cons.injEq] at same
  obtain ⟨seven, six, five, four, three, two, one, zero, -⟩ := same
  have above : first / 256 ^ 8 = second / 256 ^ 8 := by
    rw [Nat.div_eq_of_lt (by omega), Nat.div_eq_of_lt (by omega)]
  have whole := div_pow_eq (div_pow_eq (div_pow_eq (div_pow_eq (div_pow_eq (div_pow_eq
    (div_pow_eq (div_pow_eq above seven) six) five) four) three) two) one) zero
  simpa using whole

theorem length_toBeBytes (value : ℕ) : (toBeBytes value).length = 8 := by
  rw [toBeBytes, List.length_map, List.length_range]

/-- The largest value of a `bigint` column. -/
def i64Max : ℕ := 2 ^ 63 - 1

/-- An amount up to the supply fits a `bigint` column. -/
theorem le_i64Max_of_toSatsFloor_le {msat : ℕ} (within : toSatsFloor msat ≤ maxSats) :
    msat ≤ i64Max := by
  simp only [toSatsFloor, msatPerSat, maxSats, i64Max] at *
  omega

/-- An amount that fits its column is read back from it. -/
theorem asU64_natCast {msat : ℕ} (fits : msat ≤ i64Max) : asU64 msat = msat := by
  simp only [asU64, i64Max] at *
  omega

end Safrod

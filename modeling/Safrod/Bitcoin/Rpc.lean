import Mathlib.Data.Int.Basic
import Mathlib.Data.List.Infix
import Mathlib.Data.List.ReduceOption
import Safrod.Library.Table

/-!
# The client of Bitcoin Core

What the client makes of an answer of `scantxoutset` and of `getrawtransaction`. An
answer stands here as its decoded fields, or as the error of the call; an answer that
cannot be decoded is the error `malformed`.
-/

set_option autoImplicit false

namespace Safrod

inductive RpcError where
  | transport (detail : String)
  | remote (code : ℤ) (message : String)
  | malformed (text : String)
  deriving DecidableEq, Repr

/-- `as i32` of a `u32`. -/
def asI32 (value : ℕ) : ℤ := if value < 2 ^ 31 then value else value - 2 ^ 32

theorem asI32_of_lt {value : ℕ} (small : value < 2 ^ 31) : asI32 value = value := if_pos small

/-- No two values of 32 bits become one. -/
theorem asI32_injective {first second : ℕ} (firstSmall : first < 2 ^ 32)
    (secondSmall : second < 2 ^ 32) (same : asI32 first = asI32 second) : first = second := by
  unfold asI32 at same
  split at same <;> split at same <;> omega

/-! ## Amounts -/

/-- The number that decimal digits stand for. -/
def digitsValue (digits : List Char) : ℕ :=
  digits.foldl (fun value digit => 10 * value + (digit.toNat - '0'.toNat)) 0

/-- `u64` of a checked operation. -/
def checkedU64 (value : ℕ) : Option ℕ := if value < 2 ^ 64 then some value else none

/-- Converts the fixed-point BTC text of Bitcoin Core (`0.00025000`) to satoshis. -/
def btcToSats (text : String) : Except RpcError ℕ :=
  let bad := RpcError.malformed ("bad amount " ++ text)
  let whole := text.toList.takeWhile (· ≠ '.')
  let frac := (text.toList.dropWhile (· ≠ '.')).drop 1
  if whole.isEmpty ∨ 8 < frac.length ∨ ¬ (whole ++ frac).all Char.isDigit then .error bad
  else
    let padded := digitsValue (frac ++ List.replicate (8 - frac.length) '0')
    match (checkedU64 (digitsValue whole)).bind fun whole =>
        (checkedU64 (whole * 100_000_000)).bind fun sats => checkedU64 (sats + padded) with
    | none => .error bad
    | some sats => .ok sats

/-! ## `getrawtransaction` -/

structure RawVout where
  value : String
  n : ℕ
  address : Option String
  deriving DecidableEq, Repr

structure RawTx where
  confirmations : Option ℕ
  vout : List RawVout

structure MempoolOutput where
  txid : String
  vout : ℕ
  address : String
  amountSat : ℕ

/-- The outputs that have an address. -/
def mempoolOutput (txid : String) (out : RawVout) : Except RpcError (Option MempoolOutput) :=
  match out.address with
  | none => .ok none
  | some address => (btcToSats out.value).map fun amountSat =>
      some ⟨txid, out.n, address, amountSat⟩

/-- Outputs of a mempool transaction. A transaction that confirmed or was evicted
between listing and fetching yields `none`. -/
def mempoolOutputs (txid : String) :
    Except RpcError RawTx → Except RpcError (Option (List MempoolOutput))
  | .error (.remote (-5) _) => .ok none
  | .error error => .error error
  | .ok tx =>
      if 0 < tx.confirmations.getD 0 then .ok none
      else (tx.vout.mapM (mempoolOutput txid)).map fun outputs => some outputs.reduceOption

/-- What is left of a transaction that is not confirmed. -/
theorem mempoolOutputs_eq_some {txid : String} {answer : Except RpcError RawTx}
    {outputs : List MempoolOutput} (fetched : mempoolOutputs txid answer = .ok (some outputs)) :
    ∃ tx, answer = .ok tx ∧ ¬ 0 < tx.confirmations.getD 0 ∧ ∀ out ∈ outputs,
      out.txid = txid ∧ ∃ raw ∈ tx.vout, raw.n = out.vout ∧ raw.address = some out.address := by
  unfold mempoolOutputs at fetched
  split at fetched
  · cases fetched
  · cases fetched
  · rename_i tx
    split at fetched
    · cases fetched
    · rename_i unconfirmed
      obtain ⟨found, done, same⟩ := Except.exists_of_map_eq_ok fetched
      cases same
      refine ⟨tx, rfl, unconfirmed, fun out member => ?_⟩
      obtain ⟨raw, there, made⟩ :=
        Except.exists_of_mem_mapM done (List.reduceOption_mem_iff.mp member)
      unfold mempoolOutput at made
      split at made
      · cases made
      · rename_i address pays
        obtain ⟨amountSat, -, same⟩ := Except.exists_of_map_eq_ok made
        cases same
        exact ⟨rfl, raw, there, rfl, pays⟩

/-! ## `scantxoutset` -/

structure RawUnspent where
  txid : String
  vout : ℕ
  desc : String
  amount : String
  height : ℕ
  deriving DecidableEq, Repr

structure RawScan where
  height : ℕ
  unspents : List RawUnspent

structure Unspent where
  txid : String
  vout : ℕ
  address : String
  amountSat : ℕ
  height : ℕ

structure ScanResult where
  tipHeight : ℕ
  unspents : List Unspent

/-- `addr({address})`. -/
def addrDescriptor (address : String) : String := "addr(" ++ address ++ ")"

/-- Each hit carries the matching descriptor, which identifies the watched address. -/
def addressForScript (addresses : List String) (desc : String) : Option String :=
  addresses.find? fun address => (addrDescriptor address).toList <+: desc.toList

def unspentOf (addresses : List String) (raw : RawUnspent) : Except RpcError Unspent :=
  match addressForScript addresses raw.desc with
  | none => .error (.malformed ("unmatched descriptor " ++ raw.desc))
  | some address => (btcToSats raw.amount).map fun amountSat =>
      ⟨raw.txid, raw.vout, address, amountSat, raw.height⟩

/-- Scans the confirmed outputs for the given addresses. -/
def scanAddresses (addresses : List String) :
    Except RpcError RawScan → Except RpcError ScanResult
  | .error error => .error error
  | .ok scan => (scan.unspents.mapM (unspentOf addresses)).map fun unspents =>
      ⟨scan.height, unspents⟩

/-- What is left of an answer. -/
theorem scanAddresses_eq_ok {addresses : List String} {answer : Except RpcError RawScan}
    {result : ScanResult} (scanned : scanAddresses addresses answer = .ok result) :
    ∃ scan, answer = .ok scan ∧ result.tipHeight = scan.height ∧ ∀ unspent ∈ result.unspents,
      ∃ raw ∈ scan.unspents, raw.txid = unspent.txid ∧ raw.vout = unspent.vout ∧
        raw.height = unspent.height ∧ unspent.address ∈ addresses ∧
        (addrDescriptor unspent.address).toList <+: raw.desc.toList := by
  unfold scanAddresses at scanned
  split at scanned
  · cases scanned
  · rename_i scan
    obtain ⟨unspents, done, same⟩ := Except.exists_of_map_eq_ok scanned
    cases same
    refine ⟨scan, rfl, rfl, fun unspent member => ?_⟩
    obtain ⟨raw, there, made⟩ := Except.exists_of_mem_mapM done member
    unfold unspentOf at made
    split at made
    · cases made
    · rename_i address found
      obtain ⟨amountSat, -, same⟩ := Except.exists_of_map_eq_ok made
      cases same
      have watched : address ∈ addresses := List.mem_of_find?_eq_some found
      rw [addressForScript, List.find?_eq_some_iff_append] at found
      exact ⟨raw, there, rfl, rfl, rfl, watched, of_decide_eq_true found.1⟩

end Safrod

import Mathlib.Data.List.Nodup
import Mathlib.Data.List.Perm.Basic
import Safrod.Bitcoin.Rpc

/-!
# A chain that is never reorganised

What Bitcoin Core sees: its tip, the transactions in its blocks and in its mempool,
and the outputs that its blocks spent. A block that was added stays. The outputs of a
transaction are fixed, so they are a parameter (`Transactions`).

`AnswersScan` and `AnswersTransaction` are what the watcher relies on: `scantxoutset`
answers with a tip and with the unspent outputs of that tip, and `getrawtransaction`
answers with an error or with a positive number of confirmations for a transaction that
is not in the mempool. Either may fail at any time.
-/

set_option autoImplicit false

namespace Safrod

open Table

/-- Outputs are told apart by transaction and index. -/
instance lawfulBEqOutput : LawfulBEq (String × ℕ) := inferInstance

/-! ## Transactions -/

/-- The outputs of every transaction, and the checksums of descriptors. -/
structure Transactions where
  vout : String → List RawVout
  checksum : String → String
  distinct : ∀ txid, KeyUnique RawVout.n (vout txid)
  small : ∀ txid, ∀ out ∈ vout txid, out.n < 2 ^ 32

namespace Transactions

variable (txs : Transactions)

/-- The output pays the address. -/
def Pays (txid : String) (n : ℕ) (address : String) : Prop :=
  ∃ out ∈ txs.vout txid, out.n = n ∧ out.address = some address

theorem Pays.small {txs : Transactions} {txid address : String} {n : ℕ}
    (pays : txs.Pays txid n address) : n < 2 ^ 32 := by
  obtain ⟨out, member, rfl, -⟩ := pays
  exact txs.small txid out member

/-- An output pays one address. -/
theorem Pays.unique {txs : Transactions} {txid first second : String} {n : ℕ}
    (pays : txs.Pays txid n first) (also : txs.Pays txid n second) : first = second := by
  obtain ⟨out, member, same, paid⟩ := pays
  obtain ⟨other, otherMember, otherSame, otherPaid⟩ := also
  cases (txs.distinct txid).eq_of_key member otherMember (same.trans otherSame.symm)
  exact Option.some.inj (paid.symm.trans otherPaid)

/-- `addr(bcrt1…)#checksum`. -/
def descriptor (address : String) : String :=
  "addr(" ++ address ++ ")#" ++ txs.checksum address

end Transactions

theorem toList_addrDescriptor (address : String) :
    (addrDescriptor address).toList = "addr(".toList ++ (address.toList ++ [')']) := by
  rw [addrDescriptor, String.toList_append, String.toList_append, List.append_assoc]
  rfl

theorem addrDescriptor_starts (txs : Transactions) (address : String) :
    (addrDescriptor address).toList <+: (txs.descriptor address).toList := by
  refine ⟨'#' :: (txs.checksum address).toList, ?_⟩
  rw [toList_addrDescriptor, Transactions.descriptor, String.toList_append, String.toList_append,
    String.toList_append, List.append_assoc, List.append_assoc, List.append_assoc]
  rfl

/-- What stands before a closing bracket that is the only one. -/
theorem eq_of_append_bracket {first second rest : List Char} (plain : ')' ∉ second)
    (same : first ++ ')' :: rest = second ++ [')']) : first = second := by
  induction first generalizing second with
  | nil =>
      cases second with
      | nil => rfl
      | cons head tail =>
          obtain ⟨rfl, -⟩ := List.cons.inj same
          exact absurd List.mem_cons_self plain
  | cons char first ih =>
      cases second with
      | nil =>
          obtain ⟨-, empty⟩ := List.cons.inj same
          exact absurd empty (List.append_ne_nil_of_right_ne_nil first (List.cons_ne_nil _ _))
      | cons head tail =>
          obtain ⟨rfl, tails⟩ := List.cons.inj same
          rw [ih (fun member => plain (List.mem_cons_of_mem _ member)) tails]

/-- A descriptor names one address, when addresses have no closing bracket. -/
theorem addrDescriptor_injective {first second : String} {desc : List Char}
    (firstPlain : ')' ∉ first.toList) (secondPlain : ')' ∉ second.toList)
    (firstPrefix : (addrDescriptor first).toList <+: desc)
    (secondPrefix : (addrDescriptor second).toList <+: desc) :
    first = second := by
  have ordered : ∀ short long : String, ')' ∉ long.toList →
      (addrDescriptor short).toList <+: (addrDescriptor long).toList → short = long := by
    intro short long plain before
    obtain ⟨rest, whole⟩ := before
    rw [toList_addrDescriptor, toList_addrDescriptor, List.append_assoc, List.append_assoc,
      List.append_cancel_left_eq] at whole
    exact String.toList_inj.mp (eq_of_append_bracket plain whole)
  rcases List.prefix_or_prefix_of_prefix firstPrefix secondPrefix with before | before
  · exact ordered first second secondPlain before
  · exact (ordered second first firstPlain before).symm

/-! ## The chain -/

structure Chain where
  height : ℕ
  /-- The transactions of the blocks, with the heights of their blocks. -/
  mined : List (String × ℕ)
  mempool : List String
  /-- The outputs that transactions of the blocks spent. -/
  spent : List (String × ℕ)

inductive ChainEvent where
  | arrive (txid : String)
  | evict (txid : String)
  | block (txids : List String) (spends : List (String × ℕ)) (evicted : List String)

namespace Chain

/-- The height of the block of a transaction. -/
def minedAt (chain : Chain) (txid : String) : Option ℕ :=
  (lookup Prod.fst txid chain.mined).map Prod.snd

/-- A height is a 32-bit integer of Bitcoin Core. -/
def next (chain : Chain) : ChainEvent → Option Chain
  | .arrive txid =>
      if (chain.minedAt txid).isSome then none
      else some { chain with mempool := txid :: chain.mempool }
  | .evict txid => some { chain with mempool := chain.mempool.filter (· ≠ txid) }
  | .block txids spends evicted =>
      if txids.Nodup ∧ (∀ txid ∈ txids, chain.minedAt txid = none) ∧ chain.height + 1 < 2 ^ 31 then
        some {
          height := chain.height + 1
          mined := chain.mined ++ txids.map fun txid => (txid, chain.height + 1)
          mempool := chain.mempool.filter fun txid => txid ∉ txids ∧ txid ∉ evicted
          spent := spends ++ chain.spent }
      else none

structure Sound (chain : Chain) : Prop where
  txids : KeyUnique Prod.fst chain.mined
  heights : ∀ entry ∈ chain.mined, 1 ≤ entry.2 ∧ entry.2 ≤ chain.height
  apart : ∀ entry ∈ chain.mined, entry.1 ∉ chain.mempool
  bounded : chain.height < 2 ^ 31

theorem Sound.minedAt_eq_some {chain : Chain} (sound : chain.Sound) {txid : String} {height : ℕ} :
    chain.minedAt txid = some height ↔ (txid, height) ∈ chain.mined := by
  unfold minedAt
  constructor
  · intro found
    obtain ⟨entry, looked, rfl⟩ := Option.map_eq_some_iff.mp found
    obtain ⟨member, rfl⟩ := lookup_some looked
    exact member
  · intro member
    rw [sound.txids.lookup_eq_some.mpr ⟨member, rfl⟩]
    rfl

theorem Sound.not_mempool {chain : Chain} (sound : chain.Sound) {txid : String} {height : ℕ}
    (mined : chain.minedAt txid = some height) : txid ∉ chain.mempool :=
  sound.apart _ (sound.minedAt_eq_some.mp mined)

theorem Sound.minedAt_le {chain : Chain} (sound : chain.Sound) {txid : String} {height : ℕ}
    (mined : chain.minedAt txid = some height) : 1 ≤ height ∧ height ≤ chain.height :=
  sound.heights _ (sound.minedAt_eq_some.mp mined)

/-- **A transaction stays in its block, and the tip never goes back.** -/
theorem next_later {chain later : Chain} {event : ChainEvent}
    (moved : chain.next event = some later) :
    chain.height ≤ later.height ∧ ∀ txid height, chain.minedAt txid = some height →
      later.minedAt txid = some height := by
  cases event with
  | arrive txid =>
      simp only [next] at moved
      split at moved
      · cases moved
      · cases moved
        exact ⟨le_rfl, fun _ _ mined => mined⟩
  | evict txid =>
      cases moved
      exact ⟨le_rfl, fun _ _ mined => mined⟩
  | block txids spends evicted =>
      simp only [next] at moved
      split at moved
      · cases moved
        refine ⟨Nat.le_succ _, fun txid height mined => ?_⟩
        obtain ⟨entry, looked, rfl⟩ := Option.map_eq_some_iff.mp mined
        have still : lookup Prod.fst txid
            (chain.mined ++ txids.map fun txid => (txid, chain.height + 1)) = some entry := by
          rw [lookup, List.find?_append, ← lookup, looked]
          rfl
        simp only [minedAt, still, Option.map_some]
      · cases moved

/-- What happens to the chain keeps it sound. -/
theorem Sound.next {chain later : Chain} {event : ChainEvent} (sound : chain.Sound)
    (moved : chain.next event = some later) : later.Sound := by
  cases event with
  | arrive txid =>
      simp only [Chain.next] at moved
      split at moved
      · cases moved
      · rename_i unmined
        cases moved
        refine ⟨sound.txids, sound.heights, ?_, sound.bounded⟩
        intro entry member there
        rcases List.mem_cons.mp there with same | there
        · refine unmined ?_
          rw [← same, sound.minedAt_eq_some.mpr member]
          rfl
        · exact sound.apart entry member there
  | evict txid =>
      cases moved
      refine ⟨sound.txids, sound.heights, ?_, sound.bounded⟩
      exact fun entry member there => sound.apart entry member (List.mem_of_mem_filter there)
  | block txids spends evicted =>
      simp only [Chain.next] at moved
      split at moved
      · rename_i fits
        obtain ⟨nodup, fresh, bounded⟩ := fits
        cases moved
        have unmined : ∀ entry ∈ chain.mined, entry.1 ∉ txids := by
          intro entry there member
          have mined := sound.minedAt_eq_some.mpr there
          rw [fresh entry.1 member] at mined
          cases mined
        refine ⟨?_, ?_, ?_, bounded⟩
        · rw [KeyUnique, List.map_append, List.map_map]
          refine List.nodup_append.mpr ⟨sound.txids, ?_, ?_⟩
          · exact (List.map_id txids).symm ▸ nodup
          · rintro txid old _ new rfl
            obtain ⟨entry, there, rfl⟩ := List.mem_map.mp old
            obtain ⟨txid, member, same⟩ := List.mem_map.mp new
            exact unmined entry there (same ▸ member)
        · intro entry member
          rcases List.mem_append.mp member with old | new
          · obtain ⟨positive, below⟩ := sound.heights entry old
            exact ⟨positive, Nat.le_succ_of_le below⟩
          · obtain ⟨txid, -, rfl⟩ := List.mem_map.mp new
            exact ⟨Nat.le_add_left _ _, le_rfl⟩
        · intro entry member there
          obtain ⟨waits, left⟩ := List.mem_filter.mp there
          rcases List.mem_append.mp member with old | new
          · exact sound.apart entry old waits
          · obtain ⟨txid, mined, rfl⟩ := List.mem_map.mp new
            exact (of_decide_eq_true left).1 mined
      · cases moved

/-! ## The answers of Bitcoin Core -/

/-- The unspent outputs that pay an address. -/
def unspents (txs : Transactions) (chain : Chain) (addresses : List String) : List RawUnspent :=
  chain.mined.flatMap fun (txid, height) =>
    (txs.vout txid).filterMap fun out =>
      match out.address with
      | none => none
      | some address =>
          if address ∈ addresses ∧ (txid, out.n) ∉ chain.spent then
            some ⟨txid, out.n, txs.descriptor address, out.value, height⟩
          else none

/-- `scantxoutset` answers with a tip and the unspent outputs of that tip. -/
def AnswersScan (txs : Transactions) (chain : Chain) (addresses : List String) :
    Except RpcError RawScan → Prop
  | .error _ => True
  | .ok scan => scan.height = chain.height ∧
      scan.unspents.Perm (chain.unspents txs addresses)

instance (txs : Transactions) (chain : Chain) (addresses : List String)
    (answer : Except RpcError RawScan) : Decidable (chain.AnswersScan txs addresses answer) :=
  match answer with
  | .error _ => inferInstanceAs (Decidable True)
  | .ok _ => inferInstanceAs (Decidable (_ ∧ _))

/-- `getrawtransaction` answers with an error or a positive number of confirmations for a
transaction that is not in the mempool. -/
def AnswersTransaction (txs : Transactions) (chain : Chain) (txid : String) :
    Except RpcError RawTx → Prop
  | .error _ => True
  | .ok tx => tx.vout = txs.vout txid ∧
      (txid ∉ chain.mempool → 0 < tx.confirmations.getD 0)

instance (txs : Transactions) (chain : Chain) (txid : String) (answer : Except RpcError RawTx) :
    Decidable (chain.AnswersTransaction txs txid answer) :=
  match answer with
  | .error _ => inferInstanceAs (Decidable True)
  | .ok _ => inferInstanceAs (Decidable (_ ∧ _))

/-- What an unspent output of the answer is. -/
theorem mem_unspents {txs : Transactions} {chain : Chain} {addresses : List String}
    {raw : RawUnspent} (member : raw ∈ chain.unspents txs addresses) :
    (raw.txid, raw.height) ∈ chain.mined ∧ ∃ address ∈ addresses,
      txs.Pays raw.txid raw.vout address ∧ raw.desc = txs.descriptor address := by
  obtain ⟨⟨txid, height⟩, mined, there⟩ := List.mem_flatMap.mp member
  obtain ⟨out, paid, made⟩ := List.mem_filterMap.mp there
  split at made
  · cases made
  · rename_i address pays
    split at made
    · rename_i watched
      cases made
      exact ⟨mined, address, watched.1, ⟨out, paid, rfl, pays⟩, rfl⟩
    · cases made

end Chain

end Safrod

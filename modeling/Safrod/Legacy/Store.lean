import Safrod.Library.Table
import Safrod.Legacy.Attestation

/-!
# The settlement store

A record holds everything a node knows of a settlement. `put` writes a whole record over
the one with its identifier, so the store has one record of a settlement at most, and it
carries the proof. The memory and the file keep the same map; what a write to the file adds
is that it survives the process.
-/

set_option autoImplicit false

namespace Safrod.Legacy

open Table

/-- An invoice, opaque to all but the Lightning backend. -/
structure Bolt11Invoice where
  text : String
  deriving DecidableEq

structure SettlementRecord where
  id : SettlementId
  state : SettlementState
  fiatAmount : FiatAmount
  btcAmount : Millisatoshis
  counterparty : String
  beneficiary : String
  payoutIdempotencyKey : String
  quoteExpiresAtUnix : Option ℕ
  quote : Option ExecutableQuote
  sourceReservation : Option ReservationId
  counterpartyInvoice : Option Bolt11Invoice
  attestations : List PayoutAttestation
  deriving DecidableEq

/-- The records, one for each settlement. -/
structure SettlementStore where
  records : List SettlementRecord
  unique : KeyUnique (fun record : SettlementRecord => record.id) records

namespace SettlementStore

/-- The store of a node that has not run. -/
def empty : SettlementStore := ⟨[], Table.KeyUnique.nil⟩

def get (store : SettlementStore) (id : SettlementId) : Option SettlementRecord :=
  lookup (fun record : SettlementRecord => record.id) id store.records

/-- The records after a record was written. -/
def written (records : List SettlementRecord) (record : SettlementRecord) :
    List SettlementRecord :=
  if ∃ old ∈ records, old.id = record.id then
    updateWhere (fun old => old.id = record.id) (fun _ => record) records
  else records ++ [record]

theorem written_unique {records : List SettlementRecord}
    (unique : KeyUnique (fun record : SettlementRecord => record.id) records)
    (record : SettlementRecord) :
    KeyUnique (fun record : SettlementRecord => record.id) (written records record) := by
  unfold written
  split
  · have kept : (updateWhere (fun old : SettlementRecord => old.id = record.id)
        (fun _ => record) records).map (fun record => record.id) =
        records.map fun record => record.id := by
      simp only [updateWhere, List.map_map]
      refine List.map_congr_left ?_
      intro old _
      by_cases same : old.id = record.id
      · rw [Function.comp_apply, if_pos same, same]
      · rw [Function.comp_apply, if_neg same]
    rw [KeyUnique, kept]
    exact unique
  · rename_i absent
    refine unique.append_singleton ?_
    intro old member same
    exact absent ⟨old, member, same⟩

def put (store : SettlementStore) (record : SettlementRecord) : SettlementStore where
  records := written store.records record
  unique := written_unique store.unique record

/-- The settlements that are neither released nor refunded. -/
def listPending (store : SettlementStore) : List SettlementRecord :=
  store.records.filter fun record =>
    record.state ≠ .settlementReleased ∧ record.state ≠ .refunded

/-! ## Reading what was written -/

theorem get_some {store : SettlementStore} {id : SettlementId} {record : SettlementRecord} :
    store.get id = some record ↔ record ∈ store.records ∧ record.id = id :=
  store.unique.lookup_eq_some

theorem get_id {store : SettlementStore} {id : SettlementId} {record : SettlementRecord}
    (found : store.get id = some record) : record.id = id := (get_some.mp found).2

theorem mem_written {records : List SettlementRecord} {record other : SettlementRecord} :
    other ∈ written records record ↔
      other = record ∨ (other ∈ records ∧ other.id ≠ record.id) := by
  unfold written
  split
  · rename_i there
    obtain ⟨old, member, same⟩ := there
    rw [mem_updateWhere]
    constructor
    · rintro ⟨before, beforeMember, rfl⟩
      by_cases here : before.id = record.id
      · exact .inl (if_pos here)
      · rw [if_neg here]
        exact .inr ⟨beforeMember, here⟩
    · rintro (rfl | ⟨otherMember, differs⟩)
      · exact ⟨old, member, if_pos same⟩
      · exact ⟨other, otherMember, if_neg differs⟩
  · rename_i absent
    rw [List.mem_append, List.mem_singleton]
    constructor
    · rintro (member | rfl)
      · refine .inr ⟨member, ?_⟩
        intro same
        exact absent ⟨other, member, same⟩
      · exact .inl rfl
    · rintro (rfl | ⟨member, -⟩)
      · exact .inr rfl
      · exact .inl member

theorem mem_put {store : SettlementStore} {record other : SettlementRecord} :
    other ∈ (store.put record).records ↔
      other = record ∨ (other ∈ store.records ∧ other.id ≠ record.id) := mem_written

theorem get_put_self (store : SettlementStore) (record : SettlementRecord) :
    (store.put record).get record.id = some record :=
  get_some.mpr ⟨mem_put.mpr (.inl rfl), rfl⟩

theorem get_put_of_ne (store : SettlementStore) {record : SettlementRecord} {id : SettlementId}
    (differs : id ≠ record.id) : (store.put record).get id = store.get id := by
  refine Option.ext ?_
  intro other
  rw [get_some, get_some, mem_put]
  constructor
  · rintro ⟨rfl | ⟨member, -⟩, same⟩
    · exact absurd same.symm differs
    · exact ⟨member, same⟩
  · rintro ⟨member, same⟩
    refine ⟨.inr ⟨member, ?_⟩, same⟩
    rw [same]
    exact differs

theorem get_put (store : SettlementStore) (record : SettlementRecord) (id : SettlementId) :
    (store.put record).get id = if id = record.id then some record else store.get id := by
  split
  · rename_i same
    rw [same, get_put_self]
  · rename_i differs
    exact get_put_of_ne store differs

theorem mem_listPending {store : SettlementStore} {record : SettlementRecord} :
    record ∈ store.listPending ↔ store.get record.id = some record ∧
      record.state ≠ .settlementReleased ∧ record.state ≠ .refunded := by
  rw [listPending, List.mem_filter, decide_eq_true_iff, get_some]
  simp only [and_true]

end SettlementStore

end Safrod.Legacy

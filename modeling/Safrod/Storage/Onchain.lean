import Mathlib.Data.List.Sort
import Safrod.Storage.Events

/-!
# On-chain addresses and deposits

An address is watched from its creation on. `recordObservation` writes what the
watcher saw of one output: a new row and a `bitcoin.transaction.detected` event, or
a new count and an event that tells whether the deposit became confirmed.

`Observed` lists what a call does, and `DepositKeys` are the unique keys it relies on.
-/

set_option autoImplicit false

namespace Safrod

open Table

structure Observation where
  address : AddressRecord
  txid : String
  vout : ℤ
  amountSat : ℕ
  blockHeight : Option ℤ
  confirmations : ℤ

def transactionEventData (row : OnchainTransactionRecord) (address : String) : Value :=
  .object [
    ("transaction_id", .string row.id),
    ("address", .string address),
    ("txid", .string row.txid),
    ("vout", .number row.vout),
    ("amount_sat", .number row.amountSat),
    ("confirmations", .number row.confirmations),
    ("block_height", .ofOption .number row.blockHeight),
    ("status", .string row.status.asStr)]

def detectedKind : String := "bitcoin.transaction.detected"

def updatedKind : String := "bitcoin.transaction.updated"

def confirmedKind : String := "bitcoin.transaction.confirmed"

namespace Observation

def required (observation : Observation) : ℕ :=
  (max observation.address.requiredConfirmations 1).toNat

def status (observation : Observation) : OnchainStatus :=
  .fromConfirmations (max observation.confirmations 0).toNat observation.required

/-- The row the insert adds. -/
def detectedRow (observation : Observation) (now : DateTime) (id : String) (amountSat : ℤ) :
    OnchainTransactionRecord where
  id := id
  projectId := observation.address.projectId
  addressId := observation.address.id
  txid := observation.txid
  vout := observation.vout
  amountSat := amountSat
  blockHeight := observation.blockHeight
  confirmations := observation.confirmations
  status := observation.status
  firstSeenAt := now
  updatedAt := now

/-- What the update sets. -/
def updatedRow (observation : Observation) (now : DateTime) (row : OnchainTransactionRecord) :
    OnchainTransactionRecord :=
  { row with
    confirmations := observation.confirmations
    blockHeight := observation.blockHeight
    status := observation.status
    updatedAt := now }

/-- The kind of the event for a deposit that was known. -/
def kind (observation : Observation) (old : OnchainTransactionRecord) : String :=
  if observation.status = .confirmed ∧ old.status ≠ .confirmed then confirmedKind else updatedKind

end Observation

namespace Db

/-! ## Addresses -/

def createAddress (now : DateTime) (id projectId address label : String)
    (requiredConfirmations : ℤ) : Db → Except StorageError AddressRecord × Db :=
  transaction fun tx =>
    let row : AddressRecord := ⟨id, projectId, address, label, requiredConfirmations, now⟩
    if requiredConfirmations ≤ 0 then
      .error (.database "onchain_addresses_required_confirmations_check")
    else if ∃ old ∈ tx.onchainAddresses, old.id = id ∨ old.address = address then .error .conflict
    else .ok (.commit row { tx with onchainAddresses := tx.onchainAddresses ++ [row] })

/-- Creating an address writes the table of addresses only. -/
theorem createAddress_cases (now : DateTime) (id projectId address label : String)
    (requiredConfirmations : ℤ) (db : Db) :
    (createAddress now id projectId address label requiredConfirmations db).2 = db ∨
    ((∀ old ∈ db.onchainAddresses, old.id ≠ id ∧ old.address ≠ address) ∧
      (createAddress now id projectId address label requiredConfirmations db).2 = { db with
        onchainAddresses := db.onchainAddresses ++
          [⟨id, projectId, address, label, requiredConfirmations, now⟩] }) := by
  by_cases low : requiredConfirmations ≤ 0
  · refine .inl ?_
    simp only [createAddress, transaction, if_pos low]
  · by_cases taken : ∃ old ∈ db.onchainAddresses, old.id = id ∨ old.address = address
    · refine .inl ?_
      simp only [createAddress, transaction, if_neg low, if_pos taken]
    · refine .inr ⟨?_, ?_⟩
      · intro old member
        exact not_or.mp fun clash => taken ⟨old, member, clash⟩
      · simp only [createAddress, transaction, if_neg low, if_neg taken]

/-- `select * from onchain_addresses order by created_at`. -/
def watchedAddresses (db : Db) : List AddressRecord :=
  db.onchainAddresses.insertionSort fun first second => first.createdAt ≤ second.createdAt

/-! ## Deposits -/

/-- The unique key `(txid, vout)`. -/
def outputKey (row : OnchainTransactionRecord) : String × ℤ := (row.txid, row.vout)

/-- `where txid = $1 and vout = $2`. -/
def findOutput (db : Db) (txid : String) (vout : ℤ) : Option OnchainTransactionRecord :=
  lookup outputKey (txid, vout) db.onchainTransactions

/-- The insert, with the checks of its columns, its unique keys and its foreign key. -/
def insertTransaction (row : OnchainTransactionRecord) (tx : Db) : Except StorageError Db :=
  if row.amountSat ≤ 0 then .error (.database "onchain_transactions_amount_sat_check")
  else if ∃ old ∈ tx.onchainTransactions, old.id = row.id ∨ outputKey old = outputKey row then
    .error .conflict
  else if ∀ address ∈ tx.onchainAddresses, address.id ≠ row.addressId then
    .error (.database "onchain_transactions_address_id_fkey")
  else .ok { tx with onchainTransactions := tx.onchainTransactions ++ [row] }

/-- The event of a deposit. -/
def emitTransaction (now : DateTime) (kind address : String) (row : OnchainTransactionRecord)
    (tx : Db) : Db :=
  tx.emit now row.projectId kind row.id (transactionEventData row address) false

def withObservation (now : DateTime) (observation : Observation) (id : String) (tx : Db) : Db :=
  { tx with
    onchainTransactions := updateWhere (fun row => row.id = id) (observation.updatedRow now)
      tx.onchainTransactions }

/-- Records what the chain watcher saw for one output. Returns the stored row when it
is new or its confirmation count changed, `none` when nothing changed. -/
def recordObservation (now : DateTime) (id : String) (observation : Observation) :
    Db → Except StorageError (Option OnchainTransactionRecord) × Db :=
  transaction fun tx =>
    match tx.findOutput observation.txid observation.vout with
    | none => do
        let amountSat ← toI64 observation.amountSat
        let row := observation.detectedRow now id amountSat
        let tx ← insertTransaction row tx
        return .commit (some row)
          (tx.emitTransaction now detectedKind observation.address.address row)
    | some old =>
        if old.confirmations = observation.confirmations then .ok (.drop none)
        else
          let row := observation.updatedRow now old
          .ok (.commit (some row)
            ((tx.withObservation now observation old.id).emitTransaction now
              (observation.kind old) observation.address.address row))

/-! ## What a call does -/

/-- The insert of a first observation passes its checks. -/
structure Insertable (db : Db) (id : String) (observation : Observation) : Prop where
  amountFits : observation.amountSat ≤ i64Max
  amountPositive : 0 < observation.amountSat
  idFree : ∀ old ∈ db.onchainTransactions, old.id ≠ id
  address : ∃ address ∈ db.onchainAddresses, address.id = observation.address.id

/-- The exits of `recordObservation`. -/
inductive Observed (now : DateTime) (id : String) (observation : Observation) (db : Db) :
    Except StorageError (Option OnchainTransactionRecord) → Db → Prop where
  | refused (error : StorageError)
      (missing : db.findOutput observation.txid observation.vout = none)
      (bars : ¬ db.Insertable id observation) :
      Observed now id observation db (.error error) db
  | detected (missing : db.findOutput observation.txid observation.vout = none)
      (free : db.Insertable id observation) :
      Observed now id observation db
        (.ok (some (observation.detectedRow now id observation.amountSat)))
        ({ db with onchainTransactions := db.onchainTransactions ++
            [observation.detectedRow now id observation.amountSat] }.emitTransaction now
          detectedKind observation.address.address
          (observation.detectedRow now id observation.amountSat))
  | unchanged (old : OnchainTransactionRecord)
      (found : db.findOutput observation.txid observation.vout = some old)
      (same : old.confirmations = observation.confirmations) :
      Observed now id observation db (.ok none) db
  | updated (old : OnchainTransactionRecord)
      (found : db.findOutput observation.txid observation.vout = some old)
      (differs : old.confirmations ≠ observation.confirmations) :
      Observed now id observation db (.ok (some (observation.updatedRow now old)))
        ((db.withObservation now observation old.id).emitTransaction now (observation.kind old)
          observation.address.address (observation.updatedRow now old))

theorem insertTransaction_detected {now : DateTime} {id : String} {observation : Observation}
    {db : Db} (free : db.Insertable id observation)
    (missing : db.findOutput observation.txid observation.vout = none) :
    insertTransaction (observation.detectedRow now id observation.amountSat) db =
      .ok { db with onchainTransactions := db.onchainTransactions ++
        [observation.detectedRow now id observation.amountSat] } := by
  have positive : ¬ (observation.detectedRow now id observation.amountSat).amountSat ≤ 0 :=
    Int.not_le.mpr (Int.natCast_pos.mpr free.amountPositive)
  have clear : ¬ ∃ old ∈ db.onchainTransactions,
      old.id = (observation.detectedRow now id observation.amountSat).id ∨
        outputKey old = outputKey (observation.detectedRow now id observation.amountSat) := by
    rintro ⟨old, member, sameId | sameOutput⟩
    · exact free.idFree old member sameId
    · exact lookup_eq_none.mp missing old member sameOutput
  have known : ¬ ∀ address ∈ db.onchainAddresses,
      address.id ≠ (observation.detectedRow now id observation.amountSat).addressId := by
    obtain ⟨address, member, same⟩ := free.address
    exact fun unknown => unknown address member same
  rw [insertTransaction, if_neg positive, if_neg clear, if_neg known]

/-- An insert that its checks bar fails. -/
theorem insertTransaction_error (now : DateTime) {id : String} {observation : Observation} {db : Db}
    (bars : ¬ db.Insertable id observation) (fits : observation.amountSat ≤ i64Max) :
    ∃ error, insertTransaction (observation.detectedRow now id observation.amountSat) db =
      .error error := by
  unfold insertTransaction
  split
  · exact ⟨_, rfl⟩
  · rename_i positive
    split
    · exact ⟨_, rfl⟩
    · rename_i clear
      split
      · exact ⟨_, rfl⟩
      · rename_i known
        refine absurd ⟨fits, ?_, ?_, ?_⟩ bars
        · exact Int.natCast_pos.mp (Int.not_le.mp positive)
        · exact fun old member same => clear ⟨old, member, .inl same⟩
        · obtain ⟨address, known⟩ := not_forall.mp known
          obtain ⟨member, same⟩ := not_forall.mp known
          exact ⟨address, member, not_not.mp same⟩

/-- **A call of `recordObservation` takes one of the listed exits.** -/
theorem recordObservation_observed (now : DateTime) (id : String) (observation : Observation)
    (db : Db) : Observed now id observation db (recordObservation now id observation db).1
      (recordObservation now id observation db).2 := by
  cases found : db.findOutput observation.txid observation.vout with
  | some old =>
      by_cases same : old.confirmations = observation.confirmations
      · simp only [recordObservation, transaction, found, if_pos same]
        exact .unchanged old found same
      · simp only [recordObservation, transaction, found, if_neg same]
        exact .updated old found same
  | none =>
      simp only [recordObservation, transaction, found, bind, Except.bind]
      by_cases free : db.Insertable id observation
      · simp only [toI64, if_pos free.amountFits, insertTransaction_detected free found]
        exact .detected found free
      · by_cases fits : observation.amountSat ≤ i64Max
        · obtain ⟨error, refused⟩ := insertTransaction_error now free fits
          simp only [toI64, if_pos fits, refused]
          exact .refused error found free
        · simp only [toI64, if_neg fits]
          exact .refused _ found free

/-- The events after a deposit was written. -/
theorem mem_emitTransaction {now : DateTime} {kind address : String}
    {row : OnchainTransactionRecord} {tx : Db} {event : EventRecord} :
    event ∈ (tx.emitTransaction now kind address row).events ↔
      event ∈ tx.events ∨ event = tx.newEvent now row.projectId kind row.id
        (transactionEventData row address) false := by
  rw [emitTransaction, emit_events, List.mem_append, List.mem_singleton]

/-! ## The keys of the deposits -/

structure DepositKeys (db : Db) : Prop where
  ids : KeyUnique (fun row : OnchainTransactionRecord => row.id) db.onchainTransactions
  outputs : KeyUnique outputKey db.onchainTransactions

theorem DepositKeys.empty {db : Db} (none_ : db.onchainTransactions = []) : db.DepositKeys := by
  refine ⟨?_, ?_⟩
  · rw [none_]
    exact .nil
  · rw [none_]
    exact .nil

/-- A call keeps the keys unique. -/
theorem DepositKeys.observed {now : DateTime} {id : String} {observation : Observation}
    {db after : Db} {answer : Except StorageError (Option OnchainTransactionRecord)}
    (keys : db.DepositKeys) (observed : Observed now id observation db answer after) :
    after.DepositKeys := by
  cases observed with
  | refused error missing bars => exact keys
  | unchanged old found same => exact keys
  | detected missing free =>
      refine ⟨?_, ?_⟩
      · exact keys.ids.append_singleton free.idFree
      · exact keys.outputs.append_singleton (lookup_eq_none.mp missing)
  | updated old found differs =>
      refine ⟨?_, ?_⟩
      · exact keys.ids.update fun _ => rfl
      · exact keys.outputs.update fun _ => rfl

/-- The output an observation stores, and the others. -/
theorem findOutput_detected (row : OnchainTransactionRecord) {observation : Observation} {db : Db}
    (missing : db.findOutput observation.txid observation.vout = none)
    (same : outputKey row = (observation.txid, observation.vout)) (txid : String) (vout : ℤ) :
    lookup outputKey (txid, vout) (db.onchainTransactions ++ [row]) =
      if (observation.txid, observation.vout) = (txid, vout) then some row
      else db.findOutput txid vout := by
  rw [lookup_append_singleton, same]
  split
  · rename_i here
    have missing : lookup outputKey (txid, vout) db.onchainTransactions = none := here ▸ missing
    rw [missing]
    rfl
  · exact Option.or_none

/-- The output an observation updates, and the others. -/
theorem findOutput_withObservation (now : DateTime) {observation : Observation} {db : Db}
    {old : OnchainTransactionRecord} (keys : db.DepositKeys)
    (found : db.findOutput observation.txid observation.vout = some old) (txid : String)
    (vout : ℤ) :
    (db.withObservation now observation old.id).findOutput txid vout =
      if (observation.txid, observation.vout) = (txid, vout) then
        some (observation.updatedRow now old)
      else db.findOutput txid vout := by
  have looked : lookup outputKey (txid, vout) (updateWhere (fun row => row.id = old.id)
      (observation.updatedRow now) db.onchainTransactions) = _ :=
    lookup_updateWhere (observation.updatedRow now) (fun _ => rfl) (txid, vout)
  by_cases here : (observation.txid, observation.vout) = (txid, vout)
  · rw [if_pos here]
    have found : lookup outputKey (txid, vout) db.onchainTransactions = some old := here ▸ found
    rw [found, Option.map_some, if_pos rfl] at looked
    exact looked
  · rw [if_neg here]
    refine looked.trans ?_
    cases result : lookup outputKey (txid, vout) db.onchainTransactions with
    | none => exact result.symm
    | some row =>
        have other : row.id ≠ old.id := by
          intro same
          have both := keys.ids.eq_of_key (lookup_some result).1 (lookup_some found).1 same
          rw [both] at result
          exact here ((lookup_some found).2.symm.trans (lookup_some result).2)
        rw [Option.map_some, if_neg other]
        exact result.symm

end Db

end Safrod

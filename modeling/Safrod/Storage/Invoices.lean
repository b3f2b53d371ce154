import Safrod.Storage.Events

/-!
# Invoices

`insertInvoice` stores an open invoice. `markInvoicePaid` applies a payment the
node received: it claims the dedupe key first, so every exit before the commit
gives the key back. `expireInvoices` moves every overdue open invoice to
`expired`, with one event for each.

`InvoiceInserted` and `Credited` list the exits of the first two.
-/

set_option autoImplicit false

namespace Safrod

open Table

structure NewInvoice where
  id : String
  projectId : String
  idempotencyKey : Option String
  amountMsat : ℕ
  description : String
  bolt11 : String
  paymentHash : String
  expiresAt : DateTime
  metadata : Value

def invoiceEventData (invoice : InvoiceRecord) : Value :=
  .object [
    ("invoice_id", .string invoice.id),
    ("status", .string invoice.status.asStr),
    ("amount_msat", .number invoice.amountMsat),
    ("amount_received_msat", .ofOption .number invoice.amountReceivedMsat),
    ("payment_hash", .string invoice.paymentHash),
    ("paid_at", .ofOption .timestamp invoice.paidAt),
    ("real_regtest_lightning", .bool true)]

namespace Db

/-! ## Queries -/

/-- `where payment_hash = $1`. -/
def findInvoiceByHash (db : Db) (paymentHash : String) : Option InvoiceRow :=
  lookup (fun row : InvoiceRow => row.paymentHash) paymentHash db.invoices

def getInvoice (db : Db) (projectId id : String) : Except StorageError InvoiceRecord :=
  (fetchOne (db.invoices.find? fun row => row.projectId = projectId ∧ row.id = id)).map
    (·.toInvoiceRecord)

/-! ## `insert_invoice` -/

/-- The row the insert adds. -/
def openRow (now : DateTime) (new : NewInvoice) : InvoiceRow where
  id := new.id
  projectId := new.projectId
  idempotencyKey := new.idempotencyKey
  amountMsat := new.amountMsat
  description := new.description
  bolt11 := new.bolt11
  paymentHash := new.paymentHash
  status := .open_
  expiresAt := new.expiresAt
  paidAt := none
  amountReceivedMsat := none
  metadata := new.metadata
  createdAt := now
  updatedAt := now

/-- Two rows that a unique index keeps apart: the primary key, the payment hash,
or the idempotency key of the project where there is one. -/
def InvoiceClash (row old : InvoiceRow) : Prop :=
  old.id = row.id ∨ old.paymentHash = row.paymentHash ∨
    (old.projectId = row.projectId ∧ old.idempotencyKey = row.idempotencyKey ∧
      row.idempotencyKey ≠ none)

instance (row old : InvoiceRow) : Decidable (InvoiceClash row old) :=
  inferInstanceAs (Decidable (_ ∨ _ ∨ _))

def withInvoice (row : InvoiceRow) (tx : Db) : Db :=
  { tx with invoices := tx.invoices ++ [row] }

def insertInvoice (now : DateTime) (new : NewInvoice) :
    Db → Except StorageError InvoiceRecord × Db :=
  transaction fun tx => do
    let _ ← toI64 new.amountMsat
    let row := openRow now new
    if row.amountMsat ≤ 0 then .error (.database "invoices_amount_msat_check")
    else if ∃ old ∈ tx.invoices, InvoiceClash row old then .error .conflict
    else return .commit row.toInvoiceRecord (tx.withInvoice row)

/-- The exits of `insertInvoice`. -/
inductive InvoiceInserted (now : DateTime) (new : NewInvoice) (db : Db) :
    Except StorageError InvoiceRecord → Db → Prop where
  | inserted (fits : new.amountMsat ≤ i64Max) (positive : 0 < new.amountMsat)
      (fresh : ∀ old ∈ db.invoices, ¬ InvoiceClash (openRow now new) old) :
      InvoiceInserted now new db (.ok (openRow now new).toInvoiceRecord)
        (db.withInvoice (openRow now new))
  | refused (error : StorageError) : InvoiceInserted now new db (.error error) db

theorem insertInvoice_inserted {now : DateTime} {new : NewInvoice} {db after : Db}
    {answer : Except StorageError InvoiceRecord}
    (call : insertInvoice now new db = (answer, after)) :
    InvoiceInserted now new db answer after := by
  have amount : (openRow now new).amountMsat = new.amountMsat := rfl
  simp only [insertInvoice, transaction, bind, Except.bind, pure, Except.pure, amount] at call
  by_cases fits : new.amountMsat ≤ i64Max
  · simp only [toI64, if_pos fits] at call
    by_cases failed : (new.amountMsat : ℤ) ≤ 0
    · simp only [if_pos failed] at call
      cases call
      exact .refused _
    · simp only [if_neg failed] at call
      by_cases clash : ∃ old ∈ db.invoices, InvoiceClash (openRow now new) old
      · simp only [if_pos clash] at call
        cases call
        exact .refused _
      · simp only [if_neg clash] at call
        cases call
        refine .inserted fits (by omega) ?_
        intro old member clashes
        exact clash ⟨old, member, clashes⟩
  · simp only [toI64, if_neg fits] at call
    cases call
    exact .refused _

/-! ## `mark_invoice_paid` -/

def receivedPayload (paymentHash : String) (amountReceivedMsat : ℕ) : Value :=
  .object [("payment_hash", .string paymentHash), ("amount_msat", .number amountReceivedMsat)]

/-- The `set` list of the update. -/
def paidRow (now : DateTime) (received : ℤ) (row : InvoiceRow) : InvoiceRow :=
  { row with
    status := .paid
    paidAt := some now
    updatedAt := now
    amountReceivedMsat := some received }

/-- The database after the update and its event. -/
def afterPaid (now : DateTime) (received : ℤ) (row : InvoiceRow) (tx : Db) : Db :=
  let paid := paidRow now received row
  { tx with
    invoices := updateWhere (fun old => old.id = row.id) (paidRow now received) tx.invoices }.emit
    now paid.projectId "invoice.paid" paid.id (invoiceEventData paid.toInvoiceRecord) false

def markInvoicePaid (now : DateTime) (dedupeKey paymentHash : String) (amountReceivedMsat : ℕ) :
    Db → Except StorageError (Option InvoiceRecord) × Db :=
  transaction fun tx => do
    let payload := receivedPayload paymentHash amountReceivedMsat
    let (claimed, tx) := claimNodeEvent now dedupeKey "payment_received" payload tx
    if claimed = false then
      return .drop none
    else do
      let current ← fetchOne (tx.findInvoiceByHash paymentHash)
      if current.status = .paid then
        return .drop none
      else if current.status.canTransitionTo .paid = false then
        .error (.illegalTransition current.status.asStr InvoiceStatus.paid.asStr)
      else do
        let received ← toI64 amountReceivedMsat
        return .commit (some (paidRow now received current).toInvoiceRecord)
          (tx.afterPaid now received current)

/-- The exits of `markInvoicePaid`. -/
inductive Credited (now : DateTime) (dedupeKey paymentHash : String) (amountReceivedMsat : ℕ)
    (db : Db) : Except StorageError (Option InvoiceRecord) → Db → Prop where
  | replayed (claimed : db.Claimed dedupeKey) :
      Credited now dedupeKey paymentHash amountReceivedMsat db (.ok none) db
  | missing (unclaimed : ¬ db.Claimed dedupeKey)
      (absent : db.findInvoiceByHash paymentHash = none) :
      Credited now dedupeKey paymentHash amountReceivedMsat db (.error .notFound) db
  | alreadyPaid (unclaimed : ¬ db.Claimed dedupeKey) (row : InvoiceRow)
      (found : db.findInvoiceByHash paymentHash = some row) (paid : row.status = .paid) :
      Credited now dedupeKey paymentHash amountReceivedMsat db (.ok none) db
  | illegal (unclaimed : ¬ db.Claimed dedupeKey) (row : InvoiceRow)
      (found : db.findInvoiceByHash paymentHash = some row) (expired : row.status = .expired) :
      Credited now dedupeKey paymentHash amountReceivedMsat db
        (.error (.illegalTransition "expired" "paid")) db
  | outOfRange (unclaimed : ¬ db.Claimed dedupeKey) (row : InvoiceRow)
      (found : db.findInvoiceByHash paymentHash = some row) (stillOpen : row.status = .open_)
      (large : i64Max < amountReceivedMsat) :
      Credited now dedupeKey paymentHash amountReceivedMsat db (.error .amountOutOfRange) db
  | credited (unclaimed : ¬ db.Claimed dedupeKey) (row : InvoiceRow)
      (found : db.findInvoiceByHash paymentHash = some row) (stillOpen : row.status = .open_)
      (fits : amountReceivedMsat ≤ i64Max) :
      Credited now dedupeKey paymentHash amountReceivedMsat db
        (.ok (some (paidRow now amountReceivedMsat row).toInvoiceRecord))
        ((db.withNodeEvent now dedupeKey "payment_received"
          (receivedPayload paymentHash amountReceivedMsat)).afterPaid now amountReceivedMsat row)

theorem markInvoicePaid_credited {now : DateTime} {dedupeKey paymentHash : String}
    {amountReceivedMsat : ℕ} {db after : Db} {answer : Except StorageError (Option InvoiceRecord)}
    (call : markInvoicePaid now dedupeKey paymentHash amountReceivedMsat db = (answer, after)) :
    Credited now dedupeKey paymentHash amountReceivedMsat db answer after := by
  simp only [markInvoicePaid, transaction, bind, Except.bind, pure, Except.pure] at call
  by_cases claimed : db.Claimed dedupeKey
  · simp only [claimNodeEvent_of_claimed claimed, if_true] at call
    cases call
    exact .replayed claimed
  · have same : (db.withNodeEvent now dedupeKey "payment_received"
        (receivedPayload paymentHash amountReceivedMsat)).findInvoiceByHash paymentHash =
        db.findInvoiceByHash paymentHash := rfl
    simp only [claimNodeEvent_of_not_claimed claimed, Bool.true_eq_false, if_false, same] at call
    cases found : db.findInvoiceByHash paymentHash with
    | none =>
        simp only [found, fetchOne] at call
        cases call
        exact .missing claimed found
    | some row =>
        simp only [found, fetchOne] at call
        cases status : row.status with
        | paid =>
            simp only [status, if_true] at call
            cases call
            exact .alreadyPaid claimed row found status
        | expired =>
            simp only [status, reduceCtorEq, if_false, InvoiceStatus.canTransitionTo, if_true]
              at call
            cases call
            exact .illegal claimed row found status
        | open_ =>
            simp only [status, reduceCtorEq, if_false, InvoiceStatus.canTransitionTo,
              Bool.true_eq_false] at call
            by_cases fits : amountReceivedMsat ≤ i64Max
            · simp only [toI64, if_pos fits] at call
              cases call
              exact .credited claimed row found status fits
            · simp only [toI64, if_neg fits] at call
              cases call
              exact .outOfRange claimed row found status (by omega)

/-! ## `expire_invoices` -/

/-- `status = 'open' and expires_at < now()`. -/
def Overdue (now : DateTime) (row : InvoiceRow) : Prop :=
  row.status = .open_ ∧ row.expiresAt < now

instance (now : DateTime) : DecidablePred (Overdue now) := fun row =>
  inferInstanceAs (Decidable (row.status = .open_ ∧ row.expiresAt < now))

def expiredRow (now : DateTime) (row : InvoiceRow) : InvoiceRow :=
  { row with status := .expired, updatedAt := now }

/-- The event of one expired invoice. -/
def emitExpired (now : DateTime) (tx : Db) (invoice : InvoiceRow) : Db :=
  tx.emit now invoice.projectId "invoice.expired" invoice.id
    (invoiceEventData invoice.toInvoiceRecord) false

def expireInvoices (now : DateTime) : Db → Except StorageError ℕ × Db :=
  transaction fun tx =>
    let expired := (tx.invoices.filter fun row => Overdue now row).map (expiredRow now)
    let tx := { tx with invoices := updateWhere (Overdue now) (expiredRow now) tx.invoices }
    .ok (.commit expired.length (expired.foldl (emitExpired now) tx))

/-- The database after the expiry task ran. -/
def afterExpire (now : DateTime) (db : Db) : Db :=
  ((db.invoices.filter fun row => Overdue now row).map (expiredRow now)).foldl (emitExpired now)
    { db with invoices := updateWhere (Overdue now) (expiredRow now) db.invoices }

theorem expireInvoices_snd (now : DateTime) (db : Db) :
    (expireInvoices now db).2 = db.afterExpire now := rfl

/-- Writing the events leaves the other tables alone. -/
theorem foldl_emitExpired (now : DateTime) (rows : List InvoiceRow) (db : Db) :
    ∃ events nextSeq deliveries, rows.foldl (emitExpired now) db =
      { db with events := events, nextSeq := nextSeq, webhookDeliveries := deliveries } := by
  induction rows generalizing db with
  | nil => exact ⟨db.events, db.nextSeq, db.webhookDeliveries, rfl⟩
  | cons row rest ih =>
      obtain ⟨events, nextSeq, deliveries, same⟩ := ih (emitExpired now db row)
      exact ⟨events, nextSeq, deliveries, same⟩

@[simp] theorem afterExpire_invoices (now : DateTime) (db : Db) :
    (db.afterExpire now).invoices = updateWhere (Overdue now) (expiredRow now) db.invoices := by
  obtain ⟨events, nextSeq, deliveries, same⟩ := foldl_emitExpired now
    ((db.invoices.filter fun row => Overdue now row).map (expiredRow now))
    { db with invoices := updateWhere (Overdue now) (expiredRow now) db.invoices }
  rw [afterExpire, same]

@[simp] theorem afterExpire_outgoingPayments (now : DateTime) (db : Db) :
    (db.afterExpire now).outgoingPayments = db.outgoingPayments := by
  obtain ⟨events, nextSeq, deliveries, same⟩ := foldl_emitExpired now
    ((db.invoices.filter fun row => Overdue now row).map (expiredRow now))
    { db with invoices := updateWhere (Overdue now) (expiredRow now) db.invoices }
  rw [afterExpire, same]

@[simp] theorem afterExpire_sandboxPayouts (now : DateTime) (db : Db) :
    (db.afterExpire now).sandboxPayouts = db.sandboxPayouts := by
  obtain ⟨events, nextSeq, deliveries, same⟩ := foldl_emitExpired now
    ((db.invoices.filter fun row => Overdue now row).map (expiredRow now))
    { db with invoices := updateWhere (Overdue now) (expiredRow now) db.invoices }
  rw [afterExpire, same]

@[simp] theorem afterExpire_nodeEvents (now : DateTime) (db : Db) :
    (db.afterExpire now).nodeEvents = db.nodeEvents := by
  obtain ⟨events, nextSeq, deliveries, same⟩ := foldl_emitExpired now
    ((db.invoices.filter fun row => Overdue now row).map (expiredRow now))
    { db with invoices := updateWhere (Overdue now) (expiredRow now) db.invoices }
  rw [afterExpire, same]

end Db

end Safrod

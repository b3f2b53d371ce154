import Mathlib.Data.List.Lex
import Mathlib.Data.Prod.Lex
import Safrod.Library.Keyset
import Safrod.Storage.Deliveries

/-!
# The reads of a project

The queries the API runs for the project of a key.
-/

set_option autoImplicit false

namespace Safrod

open Table

/-! ## The order of a list -/

/-- The order of `text` in the database: by a key that no two texts share. -/
structure Collation where
  sortKey : String → List ℕ
  injective : Function.Injective sortKey

namespace Collation

variable (collation : Collation) {Row : Type} (id : Row → String) (time : Row → DateTime)

/-- `(created_at, id)`, as a row comparison orders it. -/
def stamp (row : Row) : DateTime ×ₗ List ℕ := toLex (time row, collation.sortKey (id row))

/-- `… order by created_at desc, id desc limit …`. -/
def newest (limit : ℕ) (rows : List Row) : List Row :=
  pageBelow (collation.stamp id time) ⊤ limit rows

/-- `… and ($2 is null or (created_at, id) < (select created_at, id … where id = $2)) …` before
the order and the limit. The comparison with a row that does not exist is null. -/
def newestAfter (startingAfter : Option String) (limit : ℕ) (rows : List Row) : List Row :=
  match startingAfter with
  | none => collation.newest id time limit rows
  | some cursor =>
      match lookup id cursor rows with
      | none => []
      | some last =>
          pageBelow (collation.stamp id time) (collation.stamp id time last) limit rows

theorem stamp_inj {row other : Row} : collation.stamp id time row = collation.stamp id time other ↔
    time row = time other ∧ id row = id other := by
  simp only [stamp, toLex_inj, Prod.mk.injEq, collation.injective.eq_iff]

end Collation

/-! ## The queries -/

namespace Db

section Lists

variable (collation : Collation) (projectId : String) (limit : ℕ) (db : Db)

def listInvoices (startingAfter : Option String) : List InvoiceRecord :=
  (collation.newestAfter (fun row : InvoiceRow => row.id) (fun row => row.createdAt) startingAfter
    limit (db.invoices.filter fun row => row.projectId = projectId)).map (·.toInvoiceRecord)

def listPayments (startingAfter : Option String) : List PaymentRecord :=
  (collation.newestAfter (fun row : PaymentRow => row.id) (fun row => row.createdAt) startingAfter
    limit (db.outgoingPayments.filter fun row => row.projectId = projectId)).map
    (·.toPaymentRecord)

def listOnchainTransactions : List OnchainTransactionRecord :=
  collation.newest (fun row : OnchainTransactionRecord => row.id) (fun row => row.firstSeenAt)
    limit (db.onchainTransactions.filter fun row => row.projectId = projectId)

def addressForTransaction (addressId : String) : Except StorageError String :=
  (fetchOne (lookup (fun row : AddressRecord => row.id) addressId db.onchainAddresses)).map
    (·.address)

/-- The deliveries to the endpoints of a project. -/
def listDeliveries : List DeliveryRecord :=
  collation.newest (fun row : DeliveryRecord => row.id) (fun row => row.createdAt) limit
    (db.webhookDeliveries.filter fun row => db.DeliversTo projectId row)

/-- `order by created_at desc`. -/
def listWebhookEndpoints : List WebhookEndpoint :=
  (db.webhookEndpoints.filter fun row => row.projectId = projectId).insertionSort
    fun first second => second.createdAt ≤ first.createdAt

/-- `sandbox_balances`: `select currency, minor … order by currency`. -/
def balancesOfProject : List (String × ℤ) :=
  ((db.sandboxBalances.filter fun row => row.projectId = projectId).insertionSort
    fun first second => collation.sortKey first.currency ≤ collation.sortKey second.currency).map
      fun row => (row.currency, row.minor)

end Lists

section Rows

variable (projectId id : String) (db : Db)

def getAddress : Except StorageError AddressRecord :=
  fetchOne (db.onchainAddresses.find? fun row => row.projectId = projectId ∧ row.id = id)

def getOnchainTransaction : Except StorageError OnchainTransactionRecord :=
  fetchOne (db.onchainTransactions.find? fun row => row.projectId = projectId ∧ row.id = id)

def getEvent : Except StorageError EventRecord :=
  fetchOne (db.events.find? fun row => row.projectId = projectId ∧ row.id = id)

end Rows

/-- The events of a project after a sequence number, of one kind or of any. -/
def listEvents (projectId : String) (afterSeq : Option ℤ) (kind : Option String) (limit : ℕ)
    (db : Db) : List EventRecord :=
  pageBy (fun event : EventRecord => event.seq) limit
    (db.events.filter fun event => event.projectId = projectId ∧ afterSeq.getD 0 < event.seq ∧
      (kind = none ∨ kind = some event.kind))

end Db

end Safrod

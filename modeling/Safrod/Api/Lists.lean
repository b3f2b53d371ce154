import Safrod.Api.Feed

/-!
# The list endpoints

A list endpoint answers with one page and, when there is more, with the identifier of its last
row as the cursor of the next one. Two of the four endpoints hand the cursor to their query.
-/

set_option autoImplicit false

namespace Safrod

open Table

/-! ## Rows as JSON -/

namespace Json

def invoice (r : InvoiceRecord) : Value :=
  .object [
    ("object", .string "lightning_invoice"),
    ("id", .string r.id),
    ("status", .string r.status.asStr),
    ("amount_msat", .number r.amountMsat),
    ("description", .string r.description),
    ("bolt11", .string r.bolt11),
    ("payment_hash", .string r.paymentHash),
    ("expires_at", .timestamp r.expiresAt),
    ("paid_at", .ofOption .timestamp r.paidAt),
    ("amount_received_msat", .ofOption .number r.amountReceivedMsat),
    ("metadata", r.metadata),
    ("created_at", .timestamp r.createdAt),
    ("real_regtest_lightning", .bool true),
    ("simulated", .bool false)]

def payment (r : PaymentRecord) (revealPreimage : Bool) : Value :=
  .object [
    ("object", .string "lightning_payment"),
    ("id", .string r.id),
    ("status", .string r.status.asStr),
    ("amount_msat", .number r.amountMsat),
    ("fee_msat", .ofOption .number r.feeMsat),
    ("bolt11", .string r.bolt11),
    ("payment_hash", .string r.paymentHash),
    ("preimage", .ofOption .string (if revealPreimage then r.preimage else none)),
    ("failure_reason", .ofOption .string r.failureReason),
    ("metadata", r.metadata),
    ("created_at", .timestamp r.createdAt),
    ("updated_at", .timestamp r.updatedAt),
    ("real_regtest_lightning", .bool true),
    ("simulated", .bool false)]

def onchainTx (r : OnchainTransactionRecord) (address : String) : Value :=
  .object [
    ("object", .string "bitcoin_transaction"),
    ("id", .string r.id),
    ("address_id", .string r.addressId),
    ("address", .string address),
    ("txid", .string r.txid),
    ("vout", .number r.vout),
    ("amount_sat", .number r.amountSat),
    ("confirmations", .number r.confirmations),
    ("block_height", .ofOption .number r.blockHeight),
    ("status", .string r.status.asStr),
    ("first_seen_at", .timestamp r.firstSeenAt),
    ("updated_at", .timestamp r.updatedAt),
    ("simulated", .bool false)]

def delivery (r : DeliveryRecord) : Value :=
  .object [
    ("object", .string "webhook_delivery"),
    ("id", .string r.id),
    ("event_seq", .number r.eventSeq),
    ("endpoint_id", .string r.endpointId),
    ("status", .string r.status.asStr),
    ("attempts", .number r.attempts),
    ("next_attempt_at", .timestamp r.nextAttemptAt),
    ("last_status", .ofOption .number r.lastStatus),
    ("last_error", .ofOption .string r.lastError),
    ("delivered_at", .ofOption .timestamp r.deliveredAt),
    ("created_at", .timestamp r.createdAt)]

end Json

/-! ## Pages -/

/-- `{"object": "list", "data", "has_more", "next_cursor"}`. -/
structure ListBody where
  data : List Value
  hasMore : Bool
  nextCursor : Option String

namespace Page

def wrap {Row : Type} (page : Page) (rows : List Row) (toJson : Row → Value)
    (idOf : Row → String) : ListBody :=
  let hasMore := page.limit < rows.length
  let shown := rows.take page.limit
  ⟨shown.map toJson, hasMore, if hasMore then shown.getLast?.map idOf else none⟩

theorem wrap_map {Row Record : Type} (page : Page) (rows : List Row) (record : Row → Record)
    (toJson : Record → Value) (idOf : Record → String) :
    page.wrap (rows.map record) toJson idOf =
      page.wrap rows (fun row => toJson (record row)) (fun row => idOf (record row)) := by
  simp only [wrap, List.length_map, ← List.map_take, List.map_map, List.getLast?_map,
    Option.map_map]
  rfl

theorem fromQuery_some {limit : ℤ} (least : 1 ≤ limit) (most : limit ≤ 100) :
    ∃ page, fromQuery (some limit) = .ok page ∧ 0 < page.limit ∧ (page.limit : ℤ) = limit := by
  refine ⟨⟨limit.toNat⟩, if_pos ⟨least, most⟩, ?_, ?_⟩
  · simp only
    omega
  · simp only
    omega

end Page

/-! ## The routes -/

structure ListQuery where
  limit : Option ℤ
  startingAfter : Option String

section Routes

variable (collation : Collation) (db : Db) (projectId : String) (q : ListQuery)

/-- `GET /v1/lightning/invoices`. -/
def listInvoices : Except ApiError ListBody := do
  let page ← Page.fromQuery q.limit
  let rows := db.listInvoices collation projectId page.fetch q.startingAfter
  .ok (page.wrap rows Json.invoice fun r => r.id)

/-- The preimage is shown on regtest only. -/
def revealPreimage (network : Network) : Bool :=
  network = .regtest

/-- `GET /v1/lightning/payments`. -/
def listPayments (network : Network) : Except ApiError ListBody := do
  let page ← Page.fromQuery q.limit
  let rows := db.listPayments collation projectId page.fetch q.startingAfter
  let reveal := revealPreimage network
  .ok (page.wrap rows (fun r => Json.payment r reveal) fun r => r.id)

/-- `GET /v1/bitcoin/transactions`. The query is not given the cursor. -/
def listTransactions : Except ApiError ListBody := do
  let page ← Page.fromQuery q.limit
  let rows := db.listOnchainTransactions collation projectId page.fetch
  let data ← rows.mapM fun tx =>
    ((db.addressForTransaction tx.addressId).mapError (·.toApiError)).map fun address =>
      (tx, address)
  .ok (page.wrap data (fun (tx, address) => Json.onchainTx tx address) fun (tx, _) => tx.id)

/-- `GET /v1/webhook-deliveries`. The query is not given the cursor. -/
def listDeliveries : Except ApiError ListBody := do
  let page ← Page.fromQuery q.limit
  let rows := db.listDeliveries collation projectId page.fetch
  .ok (page.wrap rows Json.delivery fun r => r.id)

end Routes

end Safrod

import Safrod.Api.Account
import Safrod.Api.Lists
import Safrod.Core.Ids

/-!
# The reads of the API

Every `GET` route that answers from the rows of a project, with the JSON it renders. A path
parameter that is no identifier of its kind cannot name a row, so it is reported as not found.
-/

set_option autoImplicit false

namespace Safrod

/-! ## Rows as JSON -/

namespace Json

def address (r : AddressRecord) : Value :=
  .object [
    ("object", .string "bitcoin_address"),
    ("id", .string r.id),
    ("address", .string r.address),
    ("label", .string r.label),
    ("required_confirmations", .number r.requiredConfirmations),
    ("created_at", .timestamp r.createdAt)]

def event (r : EventRecord) : Value :=
  .object [
    ("object", .string "event"),
    ("id", .string r.id),
    ("seq", .number r.seq),
    ("type", .string r.kind),
    ("resource_id", .string r.resourceId),
    ("data", r.data),
    ("simulated", .bool r.simulated),
    ("created_at", .timestamp r.createdAt)]

def endpoint (r : WebhookEndpoint) : Value :=
  .object [
    ("object", .string "webhook_endpoint"),
    ("id", .string r.id),
    ("url", .string r.url),
    ("enabled", .bool r.enabled),
    ("created_at", .timestamp r.createdAt)]

def money (currency : String) (minor : ℤ) : Value :=
  .object [("currency", .string currency), ("minor_units", .number minor)]

def quote (r : QuoteRecord) : Value :=
  .object [
    ("object", .string "sandbox_quote"),
    ("id", .string r.id),
    ("status", .string r.status.asStr),
    ("source", money r.sourceCurrency r.sourceMinor),
    ("target", money r.targetCurrency r.targetMinor),
    ("rate_ppm", .number r.ratePpm),
    ("btc_amount_msat", .number r.btcAmountMsat),
    ("expires_at", .timestamp r.expiresAt),
    ("created_at", .timestamp r.createdAt),
    ("simulated_fiat", .bool true),
    ("real_regtest_lightning", .bool false)]

def payoutFields (r : PayoutRecord) : List (String × Value) := [
  ("object", .string "sandbox_payout"),
  ("id", .string r.id),
  ("quote_id", .string r.quoteId),
  ("status", .string r.status.asStr),
  ("scenario", .string r.scenario),
  ("payment_id", .ofOption .string r.paymentId),
  ("created_at", .timestamp r.createdAt),
  ("updated_at", .timestamp r.updatedAt),
  ("simulated_fiat", .bool true),
  ("real_regtest_lightning", .bool r.paymentId.isSome)]

def payout (r : PayoutRecord) : Value := .object (payoutFields r)

end Json

def ListBody.toJson (body : ListBody) : Value :=
  .object [
    ("object", .string "list"),
    ("data", .array body.data),
    ("has_more", .bool body.hasMore),
    ("next_cursor", .ofOption .string body.nextCursor)]

def EventList.toJson (list : EventList) : Value :=
  .object [
    ("object", .string "list"),
    ("data", .array (list.data.map Json.event)),
    ("has_more", .bool list.hasMore),
    ("next_after", .ofOption (fun seq : ℕ => .number seq) list.nextAfter)]

/-! ## The routes -/

/-- `id`: what fails to parse can't exist, so it is reported as not found. -/
def resourceId (kind : IdKind) (raw what : String) : Except ApiError (PrefixedId kind) :=
  (PrefixedId.fromStr kind raw).mapError fun _ => .notFound what

/-- The error of a row that is looked for under its own name. -/
def StorageError.toApiErrorOf (what : String) : StorageError → ApiError
  | notFound => .notFound what
  | other => other.toApiError

section Routes

variable (network : Network) (collation : Collation) (db : Db) (projectId : String)

/-- `GET /v1/lightning/invoices/:id`. -/
def getInvoice (raw : String) : Except ApiError Value := do
  let id ← resourceId .invoice raw "invoice"
  let invoice ← (db.getInvoice projectId id.asStr).mapError (·.toApiErrorOf "invoice")
  .ok (Json.invoice invoice)

/-- `GET /v1/lightning/payments/:id`. -/
def getPayment (raw : String) : Except ApiError Value := do
  let id ← resourceId .payment raw "payment"
  let payment ← (db.getPayment projectId id.asStr).mapError (·.toApiErrorOf "payment")
  .ok (Json.payment payment (revealPreimage network))

/-- `GET /v1/bitcoin/transactions/:id`. -/
def getTransaction (raw : String) : Except ApiError Value := do
  let id ← resourceId .transaction raw "transaction"
  let tx ← (db.getOnchainTransaction projectId id.asStr).mapError (·.toApiErrorOf "transaction")
  let address ← (db.addressForTransaction tx.addressId).mapError (·.toApiError)
  .ok (Json.onchainTx tx address)

/-- `GET /v1/events/:id`. -/
def getEvent (id : String) : Except ApiError Value := do
  let event ← (db.getEvent projectId id).mapError (·.toApiErrorOf "event")
  .ok (Json.event event)

/-- `GET /v1/webhook-endpoints`. -/
def listEndpoints : Value :=
  ListBody.toJson ⟨(db.listWebhookEndpoints projectId).map Json.endpoint, false, none⟩

/-- `GET /v1/sandbox/quotes/:id`. -/
def getQuote (id : String) : Except ApiError Value := do
  let quote ← (db.getQuote projectId id).mapError (·.toApiErrorOf "quote")
  .ok (Json.quote quote)

/-- A payout with a Bitcoin leg is shown with its payment. -/
def payoutWithPayment (payout : PayoutRecord) : Except ApiError Value :=
  match payout.paymentId with
  | none => .ok (Json.payout payout)
  | some paymentId => do
      let payment ← (db.getPayment projectId paymentId).mapError (·.toApiError)
      .ok (.object (Json.payoutFields payout ++
        [("payment", Json.payment payment (revealPreimage network))]))

/-- `GET /v1/sandbox/payouts/:id`. -/
def getPayout (id : String) : Except ApiError Value := do
  let payout ← (db.getPayout projectId id).mapError (·.toApiErrorOf "payout")
  payoutWithPayment network db projectId payout

/-- `GET /v1/sandbox/balances`. -/
def sandboxBalances : Value :=
  .object [
    ("object", .string "sandbox_balances"),
    ("balances", .array ((db.balancesOfProject collation projectId).map
      fun (currency, minor) => Json.money currency minor)),
    ("simulated_fiat", .bool true)]

end Routes

/-- A `GET` of one of the routes, with what it is asked. -/
inductive View where
  | invoice (raw : String)
  | invoices (q : ListQuery)
  | payment (raw : String)
  | payments (q : ListQuery)
  | transaction (raw : String)
  | transactions (q : ListQuery)
  | event (id : String)
  | events (after : Option ℤ) (kind : Option String) (limit : Option ℤ)
  | endpoints
  | deliveries (q : ListQuery)
  | balances
  | sandboxBalances
  | quote (id : String)
  | payout (id : String)

namespace View

def render (network : Network) (collation : Collation) (db : Db) (projectId : String) :
    View → Except ApiError Value
  | invoice raw => getInvoice db projectId raw
  | invoices q => (listInvoices collation db projectId q).map ListBody.toJson
  | payment raw => getPayment network db projectId raw
  | payments q => (listPayments collation db projectId q network).map ListBody.toJson
  | transaction raw => getTransaction db projectId raw
  | transactions q => (listTransactions collation db projectId q).map ListBody.toJson
  | event id => getEvent db projectId id
  | events after kind limit => (getEvents db projectId after kind limit).map EventList.toJson
  | endpoints => .ok (listEndpoints db projectId)
  | deliveries q => (listDeliveries collation db projectId q).map ListBody.toJson
  | balances => Safrod.balances network collation db projectId
  | sandboxBalances => .ok (Safrod.sandboxBalances collation db projectId)
  | quote id => getQuote db projectId id
  | payout id => getPayout network db projectId id

/-- The views that render payments. -/
def showsPayments : View → Bool
  | payment _ | payments _ | payout _ => true
  | _ => false

end View

end Safrod

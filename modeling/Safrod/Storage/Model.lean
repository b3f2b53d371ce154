import Safrod.Core.Money
import Safrod.Core.State
import Safrod.Library.Table

/-!
# The database

The rows of the tables the payment core reads and writes, and the errors of the
storage layer. A row carries the columns of its table; the records the queries
return are the rows without the columns they do not select.

Times are microseconds. An identifier the code draws at random, or that
PostgreSQL does, never repeats: those of payments and invoices come from the
caller, and those of events and deliveries are numbered here by the sequence
number of the event, since nothing looks at what they are.
-/

set_option autoImplicit false

namespace Safrod

abbrev DateTime := ℤ

/-- A JSON value. A number that is not an integer is kept by its text, and a
timestamp by the instant it prints. -/
inductive Value where
  | null
  | bool (value : Bool)
  | number (value : ℤ)
  | float (literal : String)
  | string (text : String)
  | timestamp (time : DateTime)
  | array (items : List Value)
  | object (fields : List (String × Value))

namespace Value

/-- An absent value is `null`. -/
def ofOption {α : Type} (wrap : α → Value) : Option α → Value
  | none => null
  | some value => wrap value

end Value

/-! ## Errors -/

inductive StorageError where
  | notFound
  | conflict
  | idempotencyMismatch
  | illegalTransition (source target : String)
  | insufficientBalance
  | amountOutOfRange
  | database (detail : String)
  deriving DecidableEq, Repr

/-- Amounts are stored as `bigint`. -/
def toI64 (value : ℕ) : Except StorageError ℤ :=
  if value ≤ i64Max then .ok value else .error .amountOutOfRange

theorem toI64_eq_ok {value : ℕ} {stored : ℤ} :
    toI64 value = .ok stored ↔ value ≤ i64Max ∧ stored = value := by
  unfold toI64
  split
  · rename_i fits
    simp only [Except.ok.injEq, fits, true_and, eq_comm]
  · rename_i large
    simp only [reduceCtorEq, large, false_and]

/-- `value.map(to_i64).transpose()`. -/
def toI64Option : Option ℕ → Except StorageError (Option ℤ)
  | none => .ok none
  | some value => (toI64 value).map some

theorem toI64Option_eq_error {value : Option ℕ} {error : StorageError}
    (failed : toI64Option value = .error error) :
    ∃ given, value = some given ∧ i64Max < given ∧ error = .amountOutOfRange := by
  cases value with
  | none => cases failed
  | some given =>
      by_cases fits : given ≤ i64Max
      · simp only [toI64Option, toI64, if_pos fits] at failed
        cases failed
      · simp only [toI64Option, toI64, if_neg fits] at failed
        cases failed
        exact ⟨given, rfl, by omega, rfl⟩

theorem toI64Option_eq_ok {value : Option ℕ} {stored : Option ℤ}
    (done : toI64Option value = .ok stored) {given : ℕ} (present : value = some given) :
    given ≤ i64Max := by
  subst present
  obtain ⟨converted, fits, -⟩ := Except.exists_of_map_eq_ok done
  exact (toI64_eq_ok.mp fits).1

/-! ## Rows -/

structure InvoiceRecord where
  id : String
  projectId : String
  idempotencyKey : Option String
  amountMsat : ℤ
  description : String
  bolt11 : String
  paymentHash : String
  status : InvoiceStatus
  expiresAt : DateTime
  paidAt : Option DateTime
  amountReceivedMsat : Option ℤ
  metadata : Value
  createdAt : DateTime

structure InvoiceRow extends InvoiceRecord where
  updatedAt : DateTime

structure PaymentRecord where
  id : String
  projectId : String
  idempotencyKey : String
  bolt11 : String
  paymentHash : String
  amountMsat : ℤ
  feeMsat : Option ℤ
  status : PaymentStatus
  failureReason : Option String
  preimage : Option String
  metadata : Value
  createdAt : DateTime
  updatedAt : DateTime

/-- A row of `outgoing_payments`. No query returns the request hash with the
rest of the row. -/
structure PaymentRow extends PaymentRecord where
  requestHash : List UInt8

structure AddressRecord where
  id : String
  projectId : String
  address : String
  label : String
  requiredConfirmations : ℤ
  createdAt : DateTime

structure OnchainTransactionRecord where
  id : String
  projectId : String
  addressId : String
  txid : String
  vout : ℤ
  amountSat : ℤ
  blockHeight : Option ℤ
  confirmations : ℤ
  status : OnchainStatus
  firstSeenAt : DateTime
  updatedAt : DateTime

structure EventRecord where
  seq : ℕ
  id : String
  projectId : String
  kind : String
  resourceId : String
  data : Value
  simulated : Bool
  createdAt : DateTime

structure WebhookEndpoint where
  id : String
  projectId : String
  url : String
  secret : String
  enabled : Bool
  createdAt : DateTime

structure DeliveryRecord where
  id : String
  eventSeq : ℕ
  endpointId : String
  status : DeliveryStatus
  attempts : ℕ
  nextAttemptAt : DateTime
  lastStatus : Option ℤ
  lastError : Option String
  deliveredAt : Option DateTime
  createdAt : DateTime

/-- A node event that was applied, under its dedupe key. -/
structure NodeEventRow where
  dedupeKey : String
  kind : String
  payload : Value
  processedAt : DateTime

structure QuoteRecord where
  id : String
  projectId : String
  sourceCurrency : String
  targetCurrency : String
  sourceMinor : ℤ
  targetMinor : ℤ
  ratePpm : ℤ
  btcAmountMsat : ℤ
  status : QuoteStatus
  expiresAt : DateTime
  createdAt : DateTime

structure PayoutRecord where
  id : String
  projectId : String
  quoteId : String
  idempotencyKey : String
  scenario : String
  settlementBolt11 : Option String
  status : PayoutStatus
  paymentId : Option String
  createdAt : DateTime
  updatedAt : DateTime

structure BalanceRow where
  projectId : String
  currency : String
  minor : ℤ

/-! ## The database -/

/-- What `EventId::new()` and `gen_random_uuid()` draw for the event of a number and for its
delivery to an endpoint. -/
structure Draws where
  eventId : ℕ → String
  deliveryId : ℕ → String → String

/-- Identifiers that count. -/
def Draws.counting : Draws where
  eventId seq := "evt_" ++ toString seq
  deliveryId seq endpointId := "dlv_" ++ toString seq ++ "_" ++ endpointId

structure Db where
  invoices : List InvoiceRow := []
  outgoingPayments : List PaymentRow := []
  onchainAddresses : List AddressRecord := []
  onchainTransactions : List OnchainTransactionRecord := []
  events : List EventRecord := []
  /-- The next value of the sequence behind `events.seq`. -/
  nextSeq : ℕ := 1
  webhookEndpoints : List WebhookEndpoint := []
  webhookDeliveries : List DeliveryRecord := []
  nodeEvents : List NodeEventRow := []
  sandboxQuotes : List QuoteRecord := []
  sandboxPayouts : List PayoutRecord := []
  sandboxBalances : List BalanceRow := []
  /-- The identifiers that come next. No table holds them. -/
  draws : Draws := .counting

/-- `fetch_one`: no row is an error. -/
def fetchOne {Row : Type} : Option Row → Except StorageError Row
  | none => .error .notFound
  | some row => .ok row

theorem fetchOne_eq_ok {Row : Type} {found : Option Row} {row : Row} :
    fetchOne found = .ok row ↔ found = some row := by
  cases found with
  | none => simp only [fetchOne, reduceCtorEq]
  | some other => simp only [fetchOne, Except.ok.injEq, Option.some.injEq]

end Safrod

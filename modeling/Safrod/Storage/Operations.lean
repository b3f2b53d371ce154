import Safrod.Library.Machine
import Safrod.Storage.Invoices
import Safrod.Storage.Sandbox
import Safrod.Storage.Webhooks

/-!
# The storage operations as one machine

A run is any sequence of storage calls, each an atomic transaction on the
database the earlier ones left. `Performed` lists the changes a call can make,
whatever its arguments, and `perform_performed` says there are no others. The
invariants of the tables are case analyses of it. `perform_routed` is the part of
it for the calls that the payment engine does not make.
-/

set_option autoImplicit false

namespace Safrod

open Table

/-- A storage call with its arguments, the times it reads and the identifiers it
draws. -/
inductive Call where
  | insertInvoice (now : DateTime) (new : NewInvoice)
  | markInvoicePaid (now : DateTime) (dedupeKey paymentHash : String) (amountReceivedMsat : ℕ)
  | expireInvoices (now : DateTime)
  | beginPayment (now : DateTime) (new : NewPayment)
  | transitionPayment (now : DateTime) (dedupeKey : Option String) (paymentId : String)
      (next : PaymentStatus) (resolution : Resolution)
  | insertQuote (now : DateTime) (id : String) (new : NewQuote)
  | reservePayout (now clock : DateTime) (request : Reservation)
  | advancePayout (now : DateTime) (payoutId : String) (next : PayoutStatus)
  | attachPaymentToPayout (now : DateTime) (payoutId paymentId : String)
  | creditSandboxBalance (projectId currency : String) (minor : ℕ)
  | createWebhookEndpoint (now : DateTime) (id projectId url secret : String)
  | disableWebhookEndpoint (projectId id : String)
  | testEndpoint (now : DateTime) (projectId id : String)

/-- The calls of the sandbox routes. -/
def Call.isSandbox : Call → Bool
  | .insertQuote _ _ _ => true
  | .reservePayout _ _ _ => true
  | .advancePayout _ _ _ => true
  | .attachPaymentToPayout _ _ _ => true
  | .creditSandboxBalance _ _ _ => true
  | _ => false

/-- The calls that only the payment engine makes. -/
def Call.isEngine : Call → Bool
  | .markInvoicePaid _ _ _ _ => true
  | .beginPayment _ _ => true
  | .transitionPayment _ _ _ _ _ => true
  | _ => false

namespace Db

/-- The database a call leaves. -/
def perform : Call → Db → Db
  | .insertInvoice now new, db => (insertInvoice now new db).2
  | .markInvoicePaid now dedupeKey paymentHash amount, db =>
      (markInvoicePaid now dedupeKey paymentHash amount db).2
  | .expireInvoices now, db => (expireInvoices now db).2
  | .beginPayment now new, db => (beginPayment now new db).2
  | .transitionPayment now dedupeKey paymentId next resolution, db =>
      (transitionPayment now dedupeKey paymentId next resolution db).2
  | .insertQuote now id new, db => (insertQuote now id new db).2
  | .reservePayout now clock request, db => (reservePayout now clock request db).2
  | .advancePayout now payoutId next, db => (advancePayout now payoutId next db).2
  | .attachPaymentToPayout now payoutId paymentId, db =>
      (attachPaymentToPayout now payoutId paymentId db).2
  | .creditSandboxBalance projectId currency minor, db =>
      (creditSandboxBalance projectId currency minor db).2
  | .createWebhookEndpoint now id projectId url secret, db =>
      (createWebhookEndpoint now id projectId url secret db).2
  | .disableWebhookEndpoint projectId id, db => (disableWebhookEndpoint projectId id db).2
  | .testEndpoint now projectId id, db => (testEndpoint now projectId id db).2

/-- The changes a call can make. -/
inductive Performed (db : Db) : Db → Prop where
  | unchanged : Performed db db
  | invoiceInserted (now : DateTime) (new : NewInvoice)
      (fresh : ∀ old ∈ db.invoices, ¬ InvoiceClash (openRow now new) old) :
      Performed db (db.withInvoice (openRow now new))
  | invoicePaid (now : DateTime) (dedupeKey kind : String) (payload : Value) (received : ℤ)
      (row : InvoiceRow) (member : row ∈ db.invoices) (stillOpen : row.status = .open_) :
      Performed db ((db.withNodeEvent now dedupeKey kind payload).afterPaid now received row)
  | invoicesExpired (now : DateTime) : Performed db (db.afterExpire now)
  | paymentBegun (now : DateTime) (new : NewPayment)
      (keyFree : db.findPaymentByKey new.projectId new.idempotencyKey = none)
      (idFree : db.findPayment new.id = none) :
      Performed db (db.withPayment (createdRow now new))
  | paymentMoved (now : DateTime) (dedupeKey : Option String) (next : PaymentStatus)
      (fee : Option ℤ) (resolution : Resolution) (row : PaymentRow)
      (found : db.findPayment row.id = some row)
      (legal : row.status.canTransitionTo next = true) :
      Performed db (db.afterMove now dedupeKey next fee resolution row)
  | quoteInserted (row : QuoteRecord) (idFree : db.findQuote row.id = none) :
      Performed db { db with sandboxQuotes := db.sandboxQuotes ++ [row] }
  | payoutReserved (now : DateTime) (request : Reservation) (quote : QuoteRecord)
      (balances : List BalanceRow)
      (fresh : ∀ old ∈ db.sandboxPayouts, ¬ PayoutClash (reservedRow now request) old) :
      Performed db ({ db.withUsedQuote quote with
        sandboxBalances := balances
        sandboxPayouts := db.sandboxPayouts ++ [reservedRow now request] }.emitPayout now
          (reservedRow now request))
  | payoutAdvanced (now : DateTime) (current : PayoutRecord) (next : PayoutStatus)
      (balances : List BalanceRow) (found : db.findPayout current.id = some current)
      (legal : current.status.canTransitionTo next = true) :
      Performed db ({ db.withAdvanced now current.id next with
        sandboxBalances := balances }.emitPayout now (advancedRow now next current))
  | payoutAttached (now : DateTime) (payoutId paymentId : String) :
      Performed db { db with
        sandboxPayouts := updateWhere (fun row => row.id = payoutId) (attachedRow now paymentId)
          db.sandboxPayouts }
  | balanceCredited (balances : List BalanceRow) :
      Performed db { db with sandboxBalances := balances }
  | endpointCreated (endpoint : WebhookEndpoint)
      (idFree : ∀ old ∈ db.webhookEndpoints, old.id ≠ endpoint.id) :
      Performed db { db with webhookEndpoints := db.webhookEndpoints ++ [endpoint] }
  | endpointDisabled (projectId id : String) :
      Performed db { db with
        webhookEndpoints := updateWhere (fun endpoint => endpoint.id = id ∧
          endpoint.projectId = projectId) disabled db.webhookEndpoints }
  | endpointTested (now : DateTime) (projectId id : String) (data : Value) :
      Performed db (db.emit now projectId "webhook.test" id data false)

theorem Performed.ofBegun {now : DateTime} {new : NewPayment} {db after : Db}
    {answer : Except StorageError BeginOutcome} (begun : Begun now new db answer after) :
    Performed db after := by
  cases begun with
  | inserted fits positive keyFree idFree => exact .paymentBegun now new keyFree idFree
  | existing row found same => exact .unchanged
  | mismatch row found differs => exact .unchanged
  | outOfRange invalid error reason => exact .unchanged
  | taken keyFree row found => exact .unchanged

theorem Performed.ofMoved {now : DateTime} {dedupeKey : Option String} {paymentId : String}
    {next : PaymentStatus} {resolution : Resolution} {db after : Db}
    {answer : Except StorageError Transitioned}
    (moved : Moved now dedupeKey paymentId next resolution db answer after) :
    Performed db after := by
  cases moved with
  | missing absent => exact .unchanged
  | replayed row found key keyed claimed => exact .unchanged
  | repeated row found same => exact .unchanged
  | illegal row found illegal => exact .unchanged
  | outOfRange row found legal fee given large => exact .unchanged
  | moved row found unclaimed legal fee fits =>
      obtain ⟨-, rfl⟩ := lookup_some found
      exact .paymentMoved now dedupeKey next fee resolution row found legal

theorem Performed.ofCredited {now : DateTime} {dedupeKey paymentHash : String} {amount : ℕ}
    {db after : Db} {answer : Except StorageError (Option InvoiceRecord)}
    (credited : Credited now dedupeKey paymentHash amount db answer after) :
    Performed db after := by
  cases credited with
  | replayed claimed => exact .unchanged
  | missing unclaimed absent => exact .unchanged
  | alreadyPaid unclaimed row found paid => exact .unchanged
  | illegal unclaimed row found expired => exact .unchanged
  | outOfRange unclaimed row found stillOpen large => exact .unchanged
  | credited unclaimed row found stillOpen fits =>
      exact .invoicePaid now dedupeKey _ _ amount row (lookup_some found).1 stillOpen

/-- **A call makes one of the listed changes.** -/
theorem perform_performed (call : Call) (db : Db) : Performed db (perform call db) := by
  cases call with
  | insertInvoice now new =>
      cases ended : insertInvoice now new db with
      | mk answer after =>
          rw [perform, ended]
          cases insertInvoice_inserted ended with
          | inserted fits positive fresh => exact .invoiceInserted now new fresh
          | refused error => exact .unchanged
  | markInvoicePaid now dedupeKey paymentHash amount =>
      exact .ofCredited (markInvoicePaid_credited rfl)
  | expireInvoices now => exact .invoicesExpired now
  | beginPayment now new => exact .ofBegun (beginPayment_begun rfl)
  | transitionPayment now dedupeKey paymentId next resolution =>
      exact .ofMoved (transitionPayment_moved rfl)
  | insertQuote now id new =>
      cases ended : insertQuote now id new db with
      | mk answer after =>
          rw [perform, ended]
          cases insertQuote_inserted ended with
          | inserted positive idFree => exact .quoteInserted (quoteRow now id new) idFree
          | refused error => exact .unchanged
  | reservePayout now clock request =>
      cases ended : reservePayout now clock request db with
      | mk answer after =>
          rw [perform, ended]
          cases reservePayout_reserved ended with
          | refused error => exact .unchanged
          | replayed prior found quote scenario => exact .unchanged
          | reserved noPrior quote taken checked payout work written =>
              obtain ⟨rfl, fresh, balance, -, rfl⟩ := writeReservation_eq_ok written
              exact .payoutReserved now request quote balance.sandboxBalances fresh
  | advancePayout now payoutId next =>
      cases ended : advancePayout now payoutId next db with
      | mk answer after =>
          rw [perform, ended]
          cases advancePayout_advanced ended with
          | refused error => exact .unchanged
          | repeated current found same => exact .unchanged
          | advanced current found legal payout work written =>
              obtain ⟨rfl, balance, -, rfl⟩ := writeAdvance_eq_ok written
              obtain ⟨-, rfl⟩ := lookup_some found
              exact .payoutAdvanced now current next balance.sandboxBalances found legal
  | attachPaymentToPayout now payoutId paymentId =>
      cases ended : attachPaymentToPayout now payoutId paymentId db with
      | mk answer after =>
          rw [perform, ended]
          rcases attachPaymentToPayout_cases ended with rfl | rfl
          · exact .unchanged
          · exact .payoutAttached now payoutId paymentId
  | creditSandboxBalance projectId currency minor =>
      cases ended : creditSandboxBalance projectId currency minor db with
      | mk answer after =>
          rw [perform, ended]
          rcases creditSandboxBalance_cases ended with ⟨-, rfl⟩ | ⟨-, written⟩
          · exact .unchanged
          · rw [upsertBalance_eq written]
            exact .balanceCredited _
  | createWebhookEndpoint now id projectId url secret =>
      rcases createWebhookEndpoint_cases now id projectId url secret db with same | ⟨free, made⟩
      · rw [perform, same]
        exact .unchanged
      · rw [perform, made]
        exact .endpointCreated _ free
  | disableWebhookEndpoint projectId id =>
      rcases disableWebhookEndpoint_cases projectId id db with same | made
      · rw [perform, same]
        exact .unchanged
      · rw [perform, made]
        exact .endpointDisabled projectId id
  | testEndpoint now projectId id => exact .endpointTested now projectId id _

/-! ## The calls of other routes -/

/-- What a call outside the engine can do to the tables the engine works on. -/
inductive InvoicesRouted (db : Db) (rows : List InvoiceRow) : Prop where
  | same (kept : rows = db.invoices)
  | inserted (now : DateTime) (new : NewInvoice)
      (fresh : ∀ old ∈ db.invoices, ¬ InvoiceClash (openRow now new) old)
      (added : rows = db.invoices ++ [openRow now new])
  | expired (now : DateTime) (set : rows = updateWhere (Overdue now) (expiredRow now) db.invoices)

structure Routed (db after : Db) : Prop where
  payments : after.outgoingPayments = db.outgoingPayments
  nodeEvents : after.nodeEvents = db.nodeEvents
  invoices : InvoicesRouted db after.invoices

theorem Routed.same (db : Db) : Routed db db := ⟨rfl, rfl, .same rfl⟩

/-- **A call outside the engine leaves the payments and the dedupe keys alone.** -/
theorem perform_routed {call : Call} (other : call.isEngine = false) (db : Db) :
    Routed db (perform call db) := by
  cases call with
  | markInvoicePaid now dedupeKey paymentHash amount => cases other
  | beginPayment now new => cases other
  | transitionPayment now dedupeKey paymentId next resolution => cases other
  | insertInvoice now new =>
      cases ended : insertInvoice now new db with
      | mk answer after =>
          rw [perform, ended]
          cases insertInvoice_inserted ended with
          | inserted fits positive fresh => exact ⟨rfl, rfl, .inserted now new fresh rfl⟩
          | refused error => exact .same db
  | expireInvoices now =>
      refine ⟨?_, ?_, .expired now ?_⟩
      · exact afterExpire_outgoingPayments now db
      · exact afterExpire_nodeEvents now db
      · exact afterExpire_invoices now db
  | insertQuote now id new =>
      cases ended : insertQuote now id new db with
      | mk answer after =>
          rw [perform, ended]
          cases insertQuote_inserted ended with
          | inserted positive idFree => exact ⟨rfl, rfl, .same rfl⟩
          | refused error => exact .same db
  | reservePayout now clock request =>
      cases ended : reservePayout now clock request db with
      | mk answer after =>
          rw [perform, ended]
          cases reservePayout_reserved ended with
          | refused error => exact .same db
          | replayed prior found quote scenario => exact .same db
          | reserved noPrior quote taken checked payout work written =>
              obtain ⟨rfl, fresh, balance, -, rfl⟩ := writeReservation_eq_ok written
              exact ⟨rfl, rfl, .same rfl⟩
  | advancePayout now payoutId next =>
      cases ended : advancePayout now payoutId next db with
      | mk answer after =>
          rw [perform, ended]
          cases advancePayout_advanced ended with
          | refused error => exact .same db
          | repeated current found same => exact .same db
          | advanced current found legal payout work written =>
              obtain ⟨rfl, balance, -, rfl⟩ := writeAdvance_eq_ok written
              exact ⟨rfl, rfl, .same rfl⟩
  | attachPaymentToPayout now payoutId paymentId =>
      cases ended : attachPaymentToPayout now payoutId paymentId db with
      | mk answer after =>
          rw [perform, ended]
          rcases attachPaymentToPayout_cases ended with rfl | rfl
          · exact .same _
          · exact ⟨rfl, rfl, .same rfl⟩
  | creditSandboxBalance projectId currency minor =>
      cases ended : creditSandboxBalance projectId currency minor db with
      | mk answer after =>
          rw [perform, ended]
          rcases creditSandboxBalance_cases ended with ⟨-, rfl⟩ | ⟨-, written⟩
          · exact .same _
          · rw [upsertBalance_eq written]
            exact ⟨rfl, rfl, .same rfl⟩
  | createWebhookEndpoint now id projectId url secret =>
      rcases createWebhookEndpoint_cases now id projectId url secret db with same | ⟨free, made⟩
      · rw [perform, same]
        exact .same db
      · rw [perform, made]
        exact ⟨rfl, rfl, .same rfl⟩
  | disableWebhookEndpoint projectId id =>
      rcases disableWebhookEndpoint_cases projectId id db with same | made
      · rw [perform, same]
        exact .same db
      · rw [perform, made]
        exact ⟨rfl, rfl, .same rfl⟩
  | testEndpoint now projectId id => exact ⟨rfl, rfl, .same rfl⟩

/-- The tables of the sandbox are the same. -/
structure SameSandbox (db after : Db) : Prop where
  quotes : after.sandboxQuotes = db.sandboxQuotes
  payouts : after.sandboxPayouts = db.sandboxPayouts
  balances : after.sandboxBalances = db.sandboxBalances

theorem SameSandbox.refl (db : Db) : SameSandbox db db := ⟨rfl, rfl, rfl⟩

/-- **A call outside the sandbox leaves its tables alone.** -/
theorem perform_sameSandbox {call : Call} (other : call.isSandbox = false) (db : Db) :
    SameSandbox db (perform call db) := by
  cases call with
  | insertQuote now id new => cases other
  | reservePayout now clock request => cases other
  | advancePayout now payoutId next => cases other
  | attachPaymentToPayout now payoutId paymentId => cases other
  | creditSandboxBalance projectId currency minor => cases other
  | insertInvoice now new =>
      cases ended : insertInvoice now new db with
      | mk answer after =>
          rw [perform, ended]
          cases insertInvoice_inserted ended with
          | inserted fits positive fresh => exact ⟨rfl, rfl, rfl⟩
          | refused error => exact .refl db
  | markInvoicePaid now dedupeKey paymentHash amount =>
      cases ended : markInvoicePaid now dedupeKey paymentHash amount db with
      | mk answer after =>
          rw [perform, ended]
          cases markInvoicePaid_credited ended with
          | credited unclaimed row found stillOpen fits => exact ⟨rfl, rfl, rfl⟩
          | _ => exact .refl db
  | expireInvoices now =>
      obtain ⟨events, nextSeq, deliveries, same⟩ := foldl_emitExpired now
        ((db.invoices.filter fun row => Overdue now row).map (expiredRow now))
        { db with invoices := updateWhere (Overdue now) (expiredRow now) db.invoices }
      rw [perform, expireInvoices_snd, afterExpire, same]
      exact ⟨rfl, rfl, rfl⟩
  | beginPayment now new =>
      cases ended : beginPayment now new db with
      | mk answer after =>
          rw [perform, ended]
          cases beginPayment_begun ended with
          | inserted fits positive keyFree idFree => exact ⟨rfl, rfl, rfl⟩
          | _ => exact .refl db
  | transitionPayment now dedupeKey paymentId next resolution =>
      cases ended : transitionPayment now dedupeKey paymentId next resolution db with
      | mk answer after =>
          rw [perform, ended]
          cases transitionPayment_moved ended with
          | moved row found unclaimed legal fee fits =>
              exact ⟨afterMove_sandboxQuotes now dedupeKey next _ resolution row db,
                afterMove_sandboxPayouts now dedupeKey next _ resolution row db,
                afterMove_sandboxBalances now dedupeKey next _ resolution row db⟩
          | _ => exact .refl db
  | createWebhookEndpoint now id projectId url secret =>
      rcases createWebhookEndpoint_cases now id projectId url secret db with same | ⟨free, made⟩
      · rw [perform, same]
        exact .refl db
      · rw [perform, made]
        exact ⟨rfl, rfl, rfl⟩
  | disableWebhookEndpoint projectId id =>
      rcases disableWebhookEndpoint_cases projectId id db with same | made
      · rw [perform, same]
        exact .refl db
      · rw [perform, made]
        exact ⟨rfl, rfl, rfl⟩
  | testEndpoint now projectId id => exact ⟨rfl, rfl, rfl⟩

end Db

/-! ## The machine -/

/-- Runs of storage calls on a database that starts empty. -/
def storage : Machine Db Call where
  initial db := db = {}
  step db call := some (db.perform call)

end Safrod

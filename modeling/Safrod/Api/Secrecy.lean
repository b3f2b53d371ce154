import Safrod.Api.Tenancy
import Safrod.Api.Views
import Safrod.Library.Masking

/-!
# What the reads never show

A payment keeps its preimage and an endpoint its signing secret. On a network other than
regtest no read shows either: two runs of the database that differ in preimages and secrets
only answer every read alike, and write the same events (`secrets_unseen`). A read that renders
no payment shows none on regtest, too.
-/

set_option autoImplicit false

namespace Safrod

open Table

/-! ## Without secrets -/

def PaymentRecord.blank (r : PaymentRecord) : PaymentRecord := { r with preimage := none }

def PaymentRow.blank (row : PaymentRow) : PaymentRow := { row with preimage := none }

def WebhookEndpoint.blank (r : WebhookEndpoint) : WebhookEndpoint := { r with secret := "" }

def Resolution.blank (resolution : Resolution) : Resolution := { resolution with preimage := none }

def Call.blank : Call → Call
  | transitionPayment now dedupeKey paymentId next resolution =>
      transitionPayment now dedupeKey paymentId next resolution.blank
  | createWebhookEndpoint now id projectId url _ => createWebhookEndpoint now id projectId url ""
  | call => call

def DbWrite.blank : DbWrite → DbWrite
  | call made => call made.blank
  | write => write

def Db.blank (db : Db) : Db :=
  { db with
    outgoingPayments := db.outgoingPayments.map PaymentRow.blank
    webhookEndpoints := db.webhookEndpoints.map WebhookEndpoint.blank }

/-! ## Writes -/

namespace Db

section Events

variable (now : DateTime) (projectId kind resourceId : String) (data : Value) (simulated : Bool)
  (db : Db)

theorem enabledEndpoints_blank :
    db.blank.enabledEndpoints projectId =
      (db.enabledEndpoints projectId).map WebhookEndpoint.blank :=
  filter_masked fun _ => rfl

theorem emit_blank : emit now projectId kind resourceId data simulated db.blank =
    (emit now projectId kind resourceId data simulated db).blank := by
  have deliveries :
      (db.blank.enabledEndpoints projectId).map (newDelivery now db.draws db.nextSeq) =
        (db.enabledEndpoints projectId).map (newDelivery now db.draws db.nextSeq) := by
    rw [enabledEndpoints_blank, List.map_map]
    rfl
  have shape : emit now projectId kind resourceId data simulated db.blank =
      { (emit now projectId kind resourceId data simulated db).blank with
        webhookDeliveries := db.webhookDeliveries ++
          (db.blank.enabledEndpoints projectId).map (newDelivery now db.draws db.nextSeq) } := rfl
  rw [shape, deliveries]
  rfl

end Events

section Calls

variable (now : DateTime) (db : Db)

@[simp] theorem blank_invoices : db.blank.invoices = db.invoices := rfl

@[simp] theorem blank_sandboxBalances : db.blank.sandboxBalances = db.sandboxBalances := rfl

@[simp] theorem blank_nodeEvents : db.blank.nodeEvents = db.nodeEvents := rfl

theorem insertInvoice_blank (new : NewInvoice) :
    (insertInvoice now new db.blank).2 = (insertInvoice now new db).2.blank := by
  refine congrArg Prod.snd (transaction_masked id ?_)
  cases toI64 new.amountMsat with
  | error error => rfl
  | ok amount =>
      simp only [bind, Except.bind, pure, Except.pure, blank_invoices, apply_ite (Except.map _)]
      rfl

theorem afterPaid_blank (received : ℤ) (row : InvoiceRow) :
    afterPaid now received row db.blank = (afterPaid now received row db).blank :=
  emit_blank now row.projectId "invoice.paid" row.id
    (invoiceEventData (paidRow now received row).toInvoiceRecord) false { db with
      invoices := updateWhere (fun old => old.id = row.id) (paidRow now received) db.invoices }

theorem markInvoicePaid_blank (dedupeKey paymentHash : String) (amount : ℕ) :
    (markInvoicePaid now dedupeKey paymentHash amount db.blank).2 =
      (markInvoicePaid now dedupeKey paymentHash amount db).2.blank := by
  refine congrArg Prod.snd (transaction_masked id ?_)
  by_cases claimed : db.Claimed dedupeKey
  · have also : db.blank.Claimed dedupeKey := claimed
    simp only [claimNodeEvent_of_claimed claimed, claimNodeEvent_of_claimed also]
    rfl
  · have also : ¬ db.blank.Claimed dedupeKey := claimed
    simp only [claimNodeEvent_of_not_claimed claimed, claimNodeEvent_of_not_claimed also,
      Bool.true_eq_false, if_false]
    have written : ∀ received row,
        (db.blank.withNodeEvent now dedupeKey "payment_received"
          (receivedPayload paymentHash amount)).afterPaid now received row =
        ((db.withNodeEvent now dedupeKey "payment_received"
          (receivedPayload paymentHash amount)).afterPaid now received row).blank :=
      fun received row => afterPaid_blank now (db.withNodeEvent now dedupeKey "payment_received"
        (receivedPayload paymentHash amount)) received row
    change (fetchOne (db.findInvoiceByHash paymentHash)).bind _ =
      Except.map _ ((fetchOne (db.findInvoiceByHash paymentHash)).bind _)
    cases fetchOne (db.findInvoiceByHash paymentHash) with
    | error error => rfl
    | ok current =>
        simp only [Except.bind, written, apply_ite (Except.map _)]
        cases toI64 amount with
        | error error => rfl
        | ok received => rfl

theorem foldl_emitExpired_blank (rows : List InvoiceRow) :
    rows.foldl (emitExpired now) db.blank = (rows.foldl (emitExpired now) db).blank := by
  induction rows generalizing db with
  | nil => rfl
  | cons row rest ih =>
      have first : emitExpired now db.blank row = (emitExpired now db row).blank :=
        emit_blank now _ _ _ _ _ db
      rw [List.foldl_cons, List.foldl_cons, first, ih]

theorem expireInvoices_blank :
    (expireInvoices now db.blank).2 = (expireInvoices now db).2.blank :=
  foldl_emitExpired_blank now
    { db with invoices := updateWhere (Overdue now) (expiredRow now) db.invoices } _

/-! ### Payments -/

theorem findPayment_blank (id : String) :
    db.blank.findPayment id = (db.findPayment id).map PaymentRow.blank := by
  refine lookup_masked ?_ id
  exact fun _ => rfl

theorem findPaymentByKey_blank (projectId idempotencyKey : String) :
    db.blank.findPaymentByKey projectId idempotencyKey =
      (db.findPaymentByKey projectId idempotencyKey).map PaymentRow.blank := by
  refine lookup_masked ?_ (projectId, idempotencyKey)
  exact fun _ => rfl

/-- A payment is created without a preimage. -/
theorem withPayment_blank (new : NewPayment) :
    db.blank.withPayment (createdRow now new) = (db.withPayment (createdRow now new)).blank := by
  simp only [withPayment, blank, List.map_append]
  rfl

theorem insertPayment_eq (row : PaymentRow) (tx : Db) :
    insertPayment row tx =
      if row.amountMsat ≤ 0 then .error (.database "outgoing_payments_amount_msat_check")
      else if (tx.findPaymentByKey row.projectId row.idempotencyKey).isSome then .ok (none, tx)
      else if (tx.findPayment row.id).isSome then .error .conflict
      else .ok (some row, tx.withPayment row) := rfl

theorem insertPayment_blank (new : NewPayment) :
    insertPayment (createdRow now new) db.blank =
      (insertPayment (createdRow now new) db).map fun inserted =>
        (inserted.1.map PaymentRow.blank, inserted.2.blank) := by
  simp only [insertPayment_eq, findPaymentByKey_blank, findPayment_blank, withPayment_blank,
    Option.isSome_map, apply_ite (Except.map _)]
  rfl

theorem beginPayment_blank (new : NewPayment) :
    (beginPayment now new db.blank).2 = (beginPayment now new db).2.blank := by
  refine congrArg Prod.snd (transaction_masked
    (fun outcome : BeginOutcome => ⟨outcome.payment.blank, outcome.created⟩) ?_)
  refine bind_masked id ?_ fun amount _ => ?_
  · cases toI64 new.amountMsat <;> rfl
  · refine bind_masked _ (insertPayment_blank now db new) fun inserted _ => ?_
    obtain ⟨inserted, work⟩ := inserted
    cases inserted with
    | some payment => rfl
    | none =>
        simp only [Option.map_none, findPaymentByKey_blank]
        cases work.findPaymentByKey new.projectId new.idempotencyKey with
        | none => rfl
        | some existing =>
            simp only [Option.map_some, fetchOne, bind, Except.bind, apply_ite (Except.map _)]
            rfl

/-! ### Moves of a payment -/

theorem claimOutcome_blank (dedupeKey : Option String) (paymentId : String)
    (next : PaymentStatus) : claimOutcome now dedupeKey paymentId next db.blank =
      ((claimOutcome now dedupeKey paymentId next db).1,
        (claimOutcome now dedupeKey paymentId next db).2.blank) := by
  cases dedupeKey with
  | none => rfl
  | some key =>
      by_cases claimed : db.Claimed key
      · have also : db.blank.Claimed key := claimed
        simp only [claimOutcome, claimNodeEvent_of_claimed claimed, claimNodeEvent_of_claimed also]
      · have also : ¬ db.blank.Claimed key := claimed
        simp only [claimOutcome, claimNodeEvent_of_not_claimed claimed,
          claimNodeEvent_of_not_claimed also]
        rfl

theorem emitMoved_blank (next : PaymentStatus) (row : PaymentRow) :
    emitMoved now next row.blank db.blank = (emitMoved now next row db).blank := by
  unfold emitMoved
  split
  · exact emit_blank now row.projectId ("payment." ++ next.asStr) row.id
      (paymentEventData row.toPaymentRecord) false db
  · rfl

theorem resolvedRow_blank (next : PaymentStatus) (fee : Option ℤ) (resolution : Resolution)
    (row : PaymentRow) : resolvedRow now next fee resolution.blank row.blank =
      (resolvedRow now next fee resolution row).blank := rfl

theorem withResolved_blank (paymentId : String) (next : PaymentStatus) (fee : Option ℤ)
    (resolution : Resolution) :
    { db.blank with
      outgoingPayments := updateWhere (fun row => row.id = paymentId)
        (resolvedRow now next fee resolution.blank) db.blank.outgoingPayments } =
      Db.blank { db with
        outgoingPayments := updateWhere (fun row => row.id = paymentId)
          (resolvedRow now next fee resolution) db.outgoingPayments } := by
  have rows : updateWhere (fun row => row.id = paymentId)
        (resolvedRow now next fee resolution.blank) (db.outgoingPayments.map PaymentRow.blank) =
      (updateWhere (fun row => row.id = paymentId) (resolvedRow now next fee resolution)
        db.outgoingPayments).map PaymentRow.blank :=
    updateWhere_masked (fun _ => Iff.rfl) fun _ => rfl
  exact congrArg (fun rows => { db.blank with outgoingPayments := rows }) rows

theorem transitionPayment_blank (dedupeKey : Option String) (paymentId : String)
    (next : PaymentStatus) (resolution : Resolution) :
    (transitionPayment now dedupeKey paymentId next resolution.blank db.blank).2 =
      (transitionPayment now dedupeKey paymentId next resolution db).2.blank := by
  refine congrArg Prod.snd (transaction_masked
    (fun transitioned : Transitioned => ⟨transitioned.payment.blank, transitioned.changed⟩) ?_)
  refine bind_masked PaymentRow.blank ?_ fun current _ => ?_
  · rw [findPayment_blank]
    cases db.findPayment paymentId <;> rfl
  · simp only [claimOutcome_blank]
    cases claimOutcome now dedupeKey paymentId next db with
    | mk claimed work =>
        have written : ∀ fee, emitMoved now next
            (resolvedRow now next fee resolution.blank current.blank) { work.blank with
              outgoingPayments := updateWhere (fun row => row.id = paymentId)
                (resolvedRow now next fee resolution.blank) work.blank.outgoingPayments } =
            Db.blank (emitMoved now next (resolvedRow now next fee resolution current) { work with
              outgoingPayments := updateWhere (fun row => row.id = paymentId)
                (resolvedRow now next fee resolution) work.outgoingPayments }) := by
          intro fee
          rw [withResolved_blank, resolvedRow_blank, emitMoved_blank]
        have status : current.blank.status = current.status := rfl
        have fees : resolution.blank.feeMsat = resolution.feeMsat := rfl
        simp only [written, status, fees, apply_ite (Except.map _)]
        cases toI64Option resolution.feeMsat with
        | error error => rfl
        | ok fee => rfl

/-! ### The sandbox -/

theorem insertQuote_blank (quoteId : String) (new : NewQuote) :
    (insertQuote now quoteId new db.blank).2 = (insertQuote now quoteId new db).2.blank := by
  have written : insertQuoteRow (quoteRow now quoteId new) db.blank =
      (insertQuoteRow (quoteRow now quoteId new) db).map blank := by
    simp only [insertQuoteRow, apply_ite (Except.map _)]
    rfl
  refine congrArg Prod.snd (transaction_masked id ?_)
  refine bind_masked id ?_ fun source _ => ?_
  · cases toI64 new.sourceMinor <;> rfl
  refine bind_masked id ?_ fun target _ => ?_
  · cases toI64 new.targetMinor <;> rfl
  refine bind_masked id ?_ fun rate _ => ?_
  · cases toI64 new.ratePpm <;> rfl
  refine bind_masked id ?_ fun amount _ => ?_
  · cases toI64 new.btcAmountMsat <;> rfl
  exact bind_masked blank written fun work _ => rfl

theorem upsertBalance_blank (projectId currency : String) (minor : ℤ) :
    upsertBalance projectId currency minor db.blank =
      (upsertBalance projectId currency minor db).map blank := by
  simp only [upsertBalance, blank_sandboxBalances]
  cases lookup balanceKey (projectId, currency) db.sandboxBalances with
  | none => rfl
  | some row =>
      simp only
      cases addBigint row.minor minor <;> rfl

theorem creditSandboxBalance_blank (projectId currency : String) (minor : ℕ) :
    (creditSandboxBalance projectId currency minor db.blank).2 =
      (creditSandboxBalance projectId currency minor db).2.blank := by
  refine congrArg Prod.snd (transaction_masked id ?_)
  refine bind_masked id ?_ fun amount _ => ?_
  · cases toI64 minor <;> rfl
  exact bind_masked blank (upsertBalance_blank db projectId currency amount) fun work _ => rfl

theorem emitPayout_blank (payout : PayoutRecord) :
    emitPayout now payout db.blank = (emitPayout now payout db).blank :=
  emit_blank now _ _ _ _ _ db

theorem writeReservation_blank (request : Reservation) (quote : QuoteRecord) :
    writeReservation now request quote db.blank =
      (writeReservation now request quote db).map fun written => (written.1, written.2.blank) := by
  refine bind_masked blank
    (upsertBalance_blank (db.withUsedQuote quote) _ _ _) fun charged _ => ?_
  refine bind_masked blank ?_ fun work _ => ?_
  · simp only [insertPayout, apply_ite (Except.map _)]
    rfl
  · exact congrArg (fun after => Except.ok (reservedRow now request, after))
      (emitPayout_blank now work (reservedRow now request))

theorem reservePayout_blank (clock : DateTime) (request : Reservation) :
    (reservePayout now clock request db.blank).2 =
      (reservePayout now clock request db).2.blank := by
  refine congrArg Prod.snd (transaction_masked id ?_)
  have payouts : db.blank.findPayoutByKey request.projectId request.idempotencyKey =
    db.findPayoutByKey request.projectId request.idempotencyKey := rfl
  simp only [payouts]
  cases db.findPayoutByKey request.projectId request.idempotencyKey with
  | some prior =>
      simp only [apply_ite (Except.map _)]
      rfl
  | none =>
      refine bind_masked id ?_ fun quote _ => ?_
      · change takeQuote clock request db = _
        cases takeQuote clock request db <;> rfl
      refine bind_masked id ?_ fun checked _ => ?_
      · change checkBalance request quote db = _
        cases checkBalance request quote db <;> rfl
      exact bind_masked _ (writeReservation_blank now db request quote) fun written _ => rfl

theorem refundQuote_blank (quoteId : String) :
    refundQuote quoteId db.blank = (refundQuote quoteId db).map blank := by
  have quotes : db.blank.findQuote quoteId = db.findQuote quoteId := rfl
  simp only [refundQuote, quotes, blank_sandboxBalances]
  cases db.findQuote quoteId with
  | none => rfl
  | some quote =>
      simp only
      cases lookup balanceKey (quote.projectId, quote.sourceCurrency) db.sandboxBalances with
      | none => rfl
      | some row =>
          simp only
          cases addBigint row.minor quote.sourceMinor <;> rfl

theorem writeAdvance_blank (current : PayoutRecord) (next : PayoutStatus) :
    writeAdvance now current next db.blank =
      (writeAdvance now current next db).map fun written => (written.1, written.2.blank) := by
  refine bind_masked blank ?_ fun work _ => ?_
  · split
    · exact refundQuote_blank (db.withAdvanced now current.id next) current.quoteId
    · rfl
  · exact congrArg (fun after => Except.ok (advancedRow now next current, after))
      (emitPayout_blank now work (advancedRow now next current))

theorem advancePayout_blank (payoutId : String) (next : PayoutStatus) :
    (advancePayout now payoutId next db.blank).2 =
      (advancePayout now payoutId next db).2.blank := by
  refine congrArg Prod.snd (transaction_masked id ?_)
  refine bind_masked id ?_ fun current _ => ?_
  · change fetchOne (db.findPayout payoutId) = _
    cases db.findPayout payoutId <;> rfl
  · simp only [id_eq, writeAdvance_blank, apply_ite (Except.map _)]
    cases writeAdvance now current next db <;> rfl

theorem attachPaymentToPayout_blank (payoutId paymentId : String) :
    (attachPaymentToPayout now payoutId paymentId db.blank).2 =
      (attachPaymentToPayout now payoutId paymentId db).2.blank := by
  refine congrArg Prod.snd (transaction_masked id ?_)
  simp only [findPayment_blank, Option.isNone_map, apply_ite (Except.map _)]
  rfl

/-! ### Endpoints and deliveries -/

theorem createWebhookEndpoint_blank (endpointId projectId url secret : String) :
    (createWebhookEndpoint now endpointId projectId url "" db.blank).2 =
      (createWebhookEndpoint now endpointId projectId url secret db).2.blank := by
  have taken : (∃ old ∈ db.blank.webhookEndpoints, old.id = endpointId) ↔
      ∃ old ∈ db.webhookEndpoints, old.id = endpointId :=
    exists_mem_masked fun _ => Iff.rfl
  let endpoint : WebhookEndpoint := ⟨endpointId, projectId, url, secret, true, now⟩
  have rows : db.webhookEndpoints.map WebhookEndpoint.blank ++ [endpoint.blank] =
      (db.webhookEndpoints ++ [endpoint]).map WebhookEndpoint.blank := by
    rw [List.map_append]
    rfl
  by_cases clash : ∃ old ∈ db.webhookEndpoints, old.id = endpointId
  · simp only [createWebhookEndpoint, transaction, if_pos clash, if_pos (taken.mpr clash)]
  · simp only [createWebhookEndpoint, transaction, if_neg clash, if_neg (mt taken.mp clash)]
    exact congrArg (fun rows => { db.blank with webhookEndpoints := rows }) rows

theorem disableWebhookEndpoint_blank (projectId endpointId : String) :
    (disableWebhookEndpoint projectId endpointId db.blank).2 =
      (disableWebhookEndpoint projectId endpointId db).2.blank := by
  have there : (∃ row ∈ db.blank.webhookEndpoints, row.id = endpointId ∧
      row.projectId = projectId) ↔
      ∃ row ∈ db.webhookEndpoints, row.id = endpointId ∧ row.projectId = projectId :=
    exists_mem_masked fun _ => Iff.rfl
  have rows : updateWhere (fun row => row.id = endpointId ∧ row.projectId = projectId) disabled
        (db.webhookEndpoints.map WebhookEndpoint.blank) =
      (updateWhere (fun row => row.id = endpointId ∧ row.projectId = projectId) disabled
        db.webhookEndpoints).map WebhookEndpoint.blank :=
    updateWhere_masked (fun _ => Iff.rfl) fun _ => rfl
  by_cases found : ∃ row ∈ db.webhookEndpoints, row.id = endpointId ∧ row.projectId = projectId
  · simp only [disableWebhookEndpoint, transaction, if_pos found, if_pos (there.mpr found)]
    exact congrArg (fun rows => { db.blank with webhookEndpoints := rows }) rows
  · simp only [disableWebhookEndpoint, transaction, if_neg found, if_neg (mt there.mp found)]

theorem testEndpoint_blank (projectId endpointId : String) :
    (testEndpoint now projectId endpointId db.blank).2 =
      (testEndpoint now projectId endpointId db).2.blank :=
  emit_blank now projectId "webhook.test" endpointId _ false db

theorem createAddress_blank (addressId projectId address label : String) (required : ℤ) :
    (createAddress now addressId projectId address label required db.blank).2 =
      (createAddress now addressId projectId address label required db).2.blank := by
  have same : db.blank.onchainAddresses = db.onchainAddresses := rfl
  refine congrArg Prod.snd (transaction_masked id ?_)
  simp only [same, apply_ite (Except.map _)]
  rfl

theorem emitTransaction_blank (kind address : String) (row : OnchainTransactionRecord) :
    emitTransaction now kind address row db.blank =
      (emitTransaction now kind address row db).blank :=
  emit_blank now _ _ _ _ _ db

theorem recordObservation_blank (txId : String) (observation : Observation) :
    (recordObservation now txId observation db.blank).2 =
      (recordObservation now txId observation db).2.blank := by
  have output : db.blank.findOutput observation.txid observation.vout =
      db.findOutput observation.txid observation.vout := rfl
  refine congrArg Prod.snd (transaction_masked id ?_)
  simp only [output]
  cases db.findOutput observation.txid observation.vout with
  | none =>
      refine bind_masked id ?_ fun amount _ => ?_
      · cases toI64 observation.amountSat <;> rfl
      refine bind_masked blank ?_ fun work _ => ?_
      · simp only [insertTransaction, apply_ite (Except.map _)]
        rfl
      · exact congrArg (fun after => Except.ok (Finish.commit _ after))
          (emitTransaction_blank now work detectedKind observation.address.address
            (observation.detectedRow now txId amount))
  | some old =>
      have written := emitTransaction_blank now (db.withObservation now observation old.id)
        (observation.kind old) observation.address.address (observation.updatedRow now old)
      have shape : (db.withObservation now observation old.id).blank =
        db.blank.withObservation now observation old.id := rfl
      rw [shape] at written
      simp only [written, apply_ite (Except.map _)]
      rfl

theorem claimable_blank (locked : List String) (row : DeliveryRecord) :
    db.blank.Claimable now locked row ↔ db.Claimable now locked row := by
  have enabled : (∃ endpoint ∈ db.blank.webhookEndpoints, endpoint.id = row.endpointId ∧
      endpoint.enabled = true) ↔
      ∃ endpoint ∈ db.webhookEndpoints, endpoint.id = row.endpointId ∧ endpoint.enabled = true :=
    exists_mem_masked fun _ => Iff.rfl
  simp only [Claimable, enabled]

theorem deliversTo_blank (projectId : String) (row : DeliveryRecord) :
    db.blank.DeliversTo projectId row ↔ db.DeliversTo projectId row :=
  exists_mem_masked fun _ => Iff.rfl

theorem claimDueDeliveries_blank (limit : ℕ) (leaseSecs : ℤ) (locked : List String) :
    (claimDueDeliveries now limit leaseSecs locked db.blank).2 =
      (claimDueDeliveries now limit leaseSecs locked db).2.blank := by
  have ids : db.blank.claimedIds now limit locked = db.claimedIds now limit locked := by
    have rows : db.blank.webhookDeliveries = db.webhookDeliveries := rfl
    simp only [claimedIds, claimable_blank, rows]
  obtain ⟨_, claimed, -⟩ := claimDueDeliveries_spec now limit leaseSecs locked db
  obtain ⟨_, also, -⟩ := claimDueDeliveries_spec now limit leaseSecs locked db.blank
  rw [claimed, also, ids]
  rfl

theorem recordDelivery_blank (id : String) (outcome : DeliveryOutcome) :
    (recordDelivery now id outcome db.blank).2 = (recordDelivery now id outcome db).2.blank := by
  have rows : db.blank.webhookDeliveries = db.webhookDeliveries := rfl
  refine congrArg Prod.snd (transaction_masked (fun answer => answer) ?_)
  simp only [rows, apply_ite (Except.map _)]
  rfl

theorem replayDelivery_blank (projectId id : String) :
    (replayDelivery now projectId id db.blank).2 =
      (replayDelivery now projectId id db).2.blank := by
  have rows : db.blank.webhookDeliveries = db.webhookDeliveries := rfl
  have requeued : db.blank.withRequeued now projectId id =
      (db.withRequeued now projectId id).blank := by
    simp only [withRequeued, deliversTo_blank]
    rfl
  refine congrArg Prod.snd (transaction_masked (fun answer => answer) ?_)
  simp only [rows, deliversTo_blank, requeued, apply_ite (Except.map _)]
  rfl

end Calls

theorem perform_blank (call : Call) (db : Db) :
    db.blank.perform call.blank = (db.perform call).blank := by
  cases call with
  | insertInvoice now new => exact insertInvoice_blank now db new
  | markInvoicePaid now dedupeKey paymentHash amount =>
      exact markInvoicePaid_blank now db dedupeKey paymentHash amount
  | expireInvoices now => exact expireInvoices_blank now db
  | beginPayment now new => exact beginPayment_blank now db new
  | transitionPayment now dedupeKey paymentId next resolution =>
      exact transitionPayment_blank now db dedupeKey paymentId next resolution
  | insertQuote now id new => exact insertQuote_blank now db id new
  | reservePayout now clock request => exact reservePayout_blank now db clock request
  | advancePayout now payoutId next => exact advancePayout_blank now db payoutId next
  | attachPaymentToPayout now payoutId paymentId =>
      exact attachPaymentToPayout_blank now db payoutId paymentId
  | creditSandboxBalance projectId currency minor =>
      exact creditSandboxBalance_blank db projectId currency minor
  | createWebhookEndpoint now id projectId url secret =>
      exact createWebhookEndpoint_blank now db id projectId url secret
  | disableWebhookEndpoint projectId id => exact disableWebhookEndpoint_blank db projectId id
  | testEndpoint now projectId id => exact testEndpoint_blank now db projectId id

/-- **A write puts a secret where the reads see none.** -/
theorem write_blank (write : DbWrite) (db : Db) :
    db.blank.write write.blank = (db.write write).blank := by
  cases write with
  | call call => exact perform_blank call db
  | createAddress now id projectId address label required =>
      exact createAddress_blank now db id projectId address label required
  | recordObservation now id observation => exact recordObservation_blank now db id observation
  | claimDueDeliveries now limit leaseSecs locked =>
      exact claimDueDeliveries_blank now db limit leaseSecs locked
  | recordDelivery now id outcome => exact recordDelivery_blank now db id outcome
  | replayDelivery now projectId id => exact replayDelivery_blank now db projectId id

end Db

/-! ## Reads -/

section Reads

variable (network : Network) (collation : Collation) (db : Db) (projectId : String)

theorem json_payment_blank (r : PaymentRecord) :
    Json.payment r.blank false = Json.payment r false := rfl

theorem getPayment_blank (id : String) :
    db.blank.getPayment projectId id =
      (db.getPayment projectId id).map PaymentRecord.blank := by
  have found : (db.blank.outgoingPayments.find? fun row =>
      row.projectId = projectId ∧ row.id = id) =
      (db.outgoingPayments.find? fun row => row.projectId = projectId ∧ row.id = id).map
        PaymentRow.blank :=
    find?_masked fun _ => rfl
  unfold Db.getPayment
  rw [found]
  cases db.outgoingPayments.find? fun row => row.projectId = projectId ∧ row.id = id <;> rfl

/-- A page of masked rows starts after the same row. -/
theorem Collation.newestAfter_masked {Row : Type} {id : Row → String} {time : Row → DateTime}
    {mask : Row → Row} (ids : ∀ row, id (mask row) = id row)
    (times : ∀ row, time (mask row) = time row) (startingAfter : Option String) (limit : ℕ)
    (rows : List Row) : collation.newestAfter id time startingAfter limit (rows.map mask) =
      (collation.newestAfter id time startingAfter limit rows).map mask := by
  have stamps : ∀ row, collation.stamp id time (mask row) = collation.stamp id time row := by
    intro row
    rw [Collation.stamp, Collation.stamp, ids, times]
  cases startingAfter with
  | none => exact pageBelow_masked stamps ⊤ limit
  | some cursor =>
      simp only [Collation.newestAfter, lookup_masked ids]
      cases lookup id cursor rows with
      | none => rfl
      | some last =>
          simp only [Option.map_some, stamps]
          exact pageBelow_masked stamps _ limit

theorem listPayments_blank (limit : ℕ) (startingAfter : Option String) :
    db.blank.listPayments collation projectId limit startingAfter =
      (db.listPayments collation projectId limit startingAfter).map PaymentRecord.blank := by
  have own : (db.blank.outgoingPayments.filter fun row => row.projectId = projectId) =
      (db.outgoingPayments.filter fun row => row.projectId = projectId).map PaymentRow.blank :=
    filter_masked fun _ => rfl
  have page : ∀ rows : List PaymentRow,
      collation.newestAfter (fun row : PaymentRow => row.id) (fun row => row.createdAt)
          startingAfter limit (rows.map PaymentRow.blank) =
        (collation.newestAfter (fun row : PaymentRow => row.id) (fun row => row.createdAt)
          startingAfter limit rows).map PaymentRow.blank := by
    intro rows
    refine Collation.newestAfter_masked collation ?_ ?_ startingAfter limit rows
    · exact fun _ => rfl
    · exact fun _ => rfl
  simp only [Db.listPayments, own, page, List.map_map]
  rfl

theorem bigintSum_masked {Row : Type} {column : Row → Option ℤ} {mask : Row → Row}
    (blind : ∀ row, column (mask row) = column row) (rows : List Row) :
    bigintSum column (rows.map mask) = bigintSum column rows := by
  simp only [bigintSum, sumOf_masked blind]

theorem projectTotals_blank : db.blank.projectTotals projectId = db.projectTotals projectId := by
  have rows : ∀ keep : PaymentRow → Bool, (∀ row, keep row.blank = keep row) →
      db.blank.outgoingPayments.filter keep =
        (db.outgoingPayments.filter keep).map PaymentRow.blank := by
    intro keep blind
    exact filter_masked blind
  have invoices : db.blank.invoices = db.invoices := rfl
  have deposits : db.blank.onchainTransactions = db.onchainTransactions := rfl
  have amounts : ∀ rows : List PaymentRow,
      bigintSum (fun row : PaymentRow => some row.amountMsat) (rows.map PaymentRow.blank) =
        bigintSum (fun row : PaymentRow => some row.amountMsat) rows :=
    bigintSum_masked fun _ => rfl
  have fees : ∀ rows : List PaymentRow,
      bigintSum (fun row : PaymentRow => row.feeMsat) (rows.map PaymentRow.blank) =
        bigintSum (fun row : PaymentRow => row.feeMsat) rows :=
    bigintSum_masked fun _ => rfl
  simp only [Db.projectTotals, invoices, deposits]
  rw [rows (fun row => row.projectId = projectId ∧ row.status = .succeeded) fun _ => rfl,
    rows (fun row => row.projectId = projectId ∧ (row.status = .pending ∨ row.status = .unknown))
      fun _ => rfl]
  simp only [amounts, fees]

theorem listWebhookEndpoints_blank :
    db.blank.listWebhookEndpoints projectId =
      (db.listWebhookEndpoints projectId).map WebhookEndpoint.blank := by
  have own : (db.blank.webhookEndpoints.filter fun row => row.projectId = projectId) =
      (db.webhookEndpoints.filter fun row => row.projectId = projectId).map
        WebhookEndpoint.blank :=
    filter_masked fun _ => rfl
  unfold Db.listWebhookEndpoints
  rw [own]
  exact insertionSort_masked fun _ _ => Iff.rfl

theorem listDeliveries_blank (limit : ℕ) :
    db.blank.listDeliveries collation projectId limit =
      db.listDeliveries collation projectId limit := by
  have rows : db.blank.webhookDeliveries = db.webhookDeliveries := rfl
  simp only [Db.listDeliveries, Db.deliversTo_blank, rows]

end Reads

/-- **A read does not look at a secret.** On regtest the ones that render payments do. -/
theorem View.render_blank {network : Network} {view : View}
    (hidden : network = .regtest → view.showsPayments = false) (collation : Collation) (db : Db)
    (projectId : String) :
    view.render network collation db.blank projectId =
      view.render network collation db projectId := by
  have unrevealed : view.showsPayments = true → revealPreimage network = false := by
    intro shows
    refine decide_eq_false fun regtest => ?_
    rw [hidden regtest] at shows
    cases shows
  cases view with
  | payment raw =>
      simp only [render, Safrod.getPayment, getPayment_blank, unrevealed rfl]
      cases resourceId .payment raw "payment" with
      | error error => rfl
      | ok id =>
          simp only [bind, Except.bind]
          cases db.getPayment projectId id.asStr <;> rfl
  | payments q =>
      simp only [render, listPayments, listPayments_blank, unrevealed rfl, Page.wrap_map]
      rfl
  | payout id =>
      have found : db.blank.getPayout projectId id = db.getPayout projectId id := rfl
      simp only [render, Safrod.getPayout, found]
      cases db.getPayout projectId id with
      | error error => rfl
      | ok payout =>
          simp only [bind, Except.bind, Except.mapError, payoutWithPayment, getPayment_blank,
            unrevealed rfl]
          cases payout.paymentId with
          | none => rfl
          | some paymentId =>
              simp only
              cases db.getPayment projectId paymentId <;> rfl
  | endpoints =>
      simp only [render, listEndpoints, listWebhookEndpoints_blank, List.map_map]
      rfl
  | deliveries q => simp only [render, listDeliveries, listDeliveries_blank]
  | balances =>
      simp only [render, Safrod.balances, projectTotals_blank]
      rfl
  | _ => rfl

/-! ## Runs -/

/-- **Reads show no secrets.** Take two runs of the database whose writes differ in preimages
and signing secrets only, by whatever callers and in whatever order. On a network other than
regtest every read of every project answers alike after both; on regtest the reads that render
no payment do. Both have written the same events, so webhooks deliver the same bodies. -/
theorem secrets_unseen {network : Network} {view : View}
    (hidden : network = .regtest → view.showsPayments = false) {writes others : List DbWrite}
    {db other : Db} (alike : writes.map DbWrite.blank = others.map DbWrite.blank)
    (ran : database.run {} writes = some db) (also : database.run {} others = some other)
    (collation : Collation) (projectId : String) :
    view.render network collation db projectId = view.render network collation other projectId ∧
      db.events = other.events := by
  have same : db.blank = other.blank :=
    Machine.masked_of_masked (fun db write => congrArg some (Db.write_blank write db)) rfl alike ran
      also
  refine ⟨?_, ?_⟩
  · rw [← View.render_blank hidden collation db, same, View.render_blank hidden]
  · have events : db.blank.events = other.blank.events := congrArg Db.events same
    exact events

/-- An endpoint is created and a payment succeeds. -/
def secretWrites (secret preimage : String) : List DbWrite := [
  .call (.createWebhookEndpoint 1 "whe_1" "prj_1" "https://shop" secret),
  .call (.beginPayment 2 ⟨"pay_1", "prj_1", "key", [1], "lntbs1", "hash_1", 5000, .null⟩),
  .call (.transitionPayment 3 none "pay_1" .pending {}),
  .call (.transitionPayment 4 none "pay_1" .succeeded ⟨some 40, none, some preimage⟩)]

theorem secrets_unseen_succeeded : ∃ db other,
    database.run {} (secretWrites "whsec_01" "aa") = some db ∧
      database.run {} (secretWrites "whsec_02" "bb") = some other ∧
      db.outgoingPayments.map (fun row => row.preimage) = [some "aa"] ∧
      other.outgoingPayments.map (fun row => row.preimage) = [some "bb"] ∧
      (View.payments ⟨none, none⟩).render .signet byteOrder db "prj_1" =
        (View.payments ⟨none, none⟩).render .signet byteOrder other "prj_1" ∧
      db.events = other.events := by
  have ran : (database.run {} (secretWrites "whsec_01" "aa")).map
      (fun db => db.outgoingPayments.map fun row => row.preimage) = some [some "aa"] := by rfl
  have also : (database.run {} (secretWrites "whsec_02" "bb")).map
      (fun db => db.outgoingPayments.map fun row => row.preimage) = some [some "bb"] := by rfl
  obtain ⟨db, ran, first⟩ := Option.map_eq_some_iff.mp ran
  obtain ⟨other, also, second⟩ := Option.map_eq_some_iff.mp also
  have alike : (secretWrites "whsec_01" "aa").map DbWrite.blank =
      (secretWrites "whsec_02" "bb").map DbWrite.blank := rfl
  have hidden : Network.signet = .regtest → (View.payments ⟨none, none⟩).showsPayments = false := by
    rintro ⟨⟩
  obtain ⟨seen, events⟩ := secrets_unseen hidden alike ran also byteOrder "prj_1"
  exact ⟨db, other, ran, also, first, second, seen, events⟩

end Safrod

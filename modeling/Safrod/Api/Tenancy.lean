import Safrod.Api.Invoices
import Safrod.Library.Ownership
import Safrod.Storage.Onchain
import Safrod.Storage.Outbox
import Safrod.Storage.PayoutHistory
import Safrod.Storage.Queries
import Safrod.Storage.Totals

/-!
# Projects do not see each other

A key belongs to a project, and what is asked with it is asked for this project.

* `Db.owned` is what a project owns: its rows, and the deliveries to its endpoints.
* `Read.answer_congr`: what a project reads depends on what it owns only.
* `ProjectWrite.frame`: what a project writes leaves what another owns as it is.

Two references carry this besides the filters of the queries: a deposit is to an address of
its project and a payout spends a quote of its project (`Consistent`). `database` keeps them.
Some writes take an identifier without a project. The row is then one that the caller found
among the rows of the project before (`ProjectWrite.Scoped`).
-/

set_option autoImplicit false

namespace Safrod

open Table

/-! ## What a project owns -/

@[ext] structure Owned where
  invoices : List InvoiceRow
  outgoingPayments : List PaymentRow
  onchainAddresses : List AddressRecord
  onchainTransactions : List OnchainTransactionRecord
  events : List EventRecord
  webhookEndpoints : List WebhookEndpoint
  webhookDeliveries : List DeliveryRecord
  sandboxQuotes : List QuoteRecord
  sandboxPayouts : List PayoutRecord
  sandboxBalances : List BalanceRow

namespace Db

def owned (projectId : String) (db : Db) : Owned where
  invoices := db.invoices.filter fun row => row.projectId = projectId
  outgoingPayments := db.outgoingPayments.filter fun row => row.projectId = projectId
  onchainAddresses := db.onchainAddresses.filter fun row => row.projectId = projectId
  onchainTransactions := db.onchainTransactions.filter fun row => row.projectId = projectId
  events := db.events.filter fun row => row.projectId = projectId
  webhookEndpoints := db.webhookEndpoints.filter fun row => row.projectId = projectId
  webhookDeliveries := db.webhookDeliveries.filter fun row => db.DeliversTo projectId row
  sandboxQuotes := db.sandboxQuotes.filter fun row => row.projectId = projectId
  sandboxPayouts := db.sandboxPayouts.filter fun row => row.projectId = projectId
  sandboxBalances := db.sandboxBalances.filter fun row => row.projectId = projectId

/-- Primary keys, and the references that stay within a project. -/
structure Consistent (db : Db) : Prop where
  payments : KeyUnique (fun row : PaymentRow => row.id) db.outgoingPayments
  addresses : KeyUnique (fun row : AddressRecord => row.id) db.onchainAddresses
  endpoints : KeyUnique (fun row : WebhookEndpoint => row.id) db.webhookEndpoints
  quotes : KeyUnique (fun row : QuoteRecord => row.id) db.sandboxQuotes
  payouts : KeyUnique (fun row : PayoutRecord => row.id) db.sandboxPayouts
  paidTo : ∀ tx ∈ db.onchainTransactions, ∃ address ∈ db.onchainAddresses,
    address.id = tx.addressId ∧ address.projectId = tx.projectId
  quoted : ∀ payout ∈ db.sandboxPayouts, ∃ quote, db.findQuote payout.quoteId = some quote ∧
    quote.projectId = payout.projectId

end Db

/-! ## Reads -/

/-- The queries that the API runs for the project of a key. -/
inductive Read where
  | invoice (id : String)
  | invoiceByIdempotencyKey (key : String)
  | invoices (startingAfter : Option String) (limit : ℕ)
  | payment (id : String)
  | payments (startingAfter : Option String) (limit : ℕ)
  | address (id : String)
  | transaction (id : String)
  | transactions (limit : ℕ)
  | event (id : String)
  | events (after : Option ℤ) (kind : Option String) (limit : ℕ)
  | webhookEndpoints
  | webhookDeliveries (limit : ℕ)
  | quote (id : String)
  | payout (id : String)
  | totals
  | sandboxBalances

abbrev Read.Answer : Read → Type
  | invoice _ => Except StorageError InvoiceRecord
  | invoiceByIdempotencyKey _ => Option InvoiceRecord
  | invoices _ _ => List InvoiceRecord
  | payment _ => Except StorageError PaymentRecord
  | payments _ _ => List PaymentRecord
  | address _ => Except StorageError AddressRecord
  | transaction _ => Except StorageError (OnchainTransactionRecord × String)
  | transactions _ => Except StorageError (List (OnchainTransactionRecord × String))
  | event _ => Except StorageError EventRecord
  | events _ _ _ => List EventRecord
  | webhookEndpoints => List WebhookEndpoint
  | webhookDeliveries _ => List DeliveryRecord
  | quote _ => Except StorageError QuoteRecord
  | payout _ => Except StorageError PayoutRecord
  | totals => Except StorageError Totals
  | sandboxBalances => List (String × ℤ)

/-- A transaction is shown with its address, which is looked up by its identifier alone. -/
def Db.withAddress (db : Db) (tx : OnchainTransactionRecord) :
    Except StorageError (OnchainTransactionRecord × String) := do
  let address ← db.addressForTransaction tx.addressId
  return (tx, address)

def Read.answer (collation : Collation) (projectId : String) (db : Db) :
    (read : Read) → read.Answer
  | invoice id => db.getInvoice projectId id
  | invoiceByIdempotencyKey key => db.findInvoiceByIdempotencyKey projectId key
  | invoices startingAfter limit => db.listInvoices collation projectId limit startingAfter
  | payment id => db.getPayment projectId id
  | payments startingAfter limit => db.listPayments collation projectId limit startingAfter
  | address id => db.getAddress projectId id
  | transaction id => do
      let tx ← db.getOnchainTransaction projectId id
      db.withAddress tx
  | transactions limit => (db.listOnchainTransactions collation projectId limit).mapM db.withAddress
  | event id => db.getEvent projectId id
  | events after kind limit => db.listEvents projectId after kind limit
  | webhookEndpoints => db.listWebhookEndpoints projectId
  | webhookDeliveries limit => db.listDeliveries collation projectId limit
  | quote id => db.getQuote projectId id
  | payout id => db.getPayout projectId id
  | totals => db.projectTotals projectId
  | sandboxBalances => db.balancesOfProject collation projectId

section Reads

variable {collation : Collation} {projectId : String} {db other : Db}

namespace Db

/-- The address of a deposit of the project is the same row on both sides. -/
theorem withAddress_congr (consistent : db.Consistent) (otherConsistent : other.Consistent)
    (agree : db.owned projectId = other.owned projectId) {tx : OnchainTransactionRecord}
    (member : tx ∈ db.onchainTransactions) (project : tx.projectId = projectId) :
    db.withAddress tx = other.withAddress tx := by
  obtain ⟨address, there, id, owner⟩ := consistent.paidTo tx member
  have shared : address ∈ other.onchainAddresses :=
    mem_of_owned (decide_eq_true (owner.trans project)) (congrArg Owned.onchainAddresses agree)
      there
  have here := consistent.addresses.lookup_eq_some.mpr ⟨there, id⟩
  have beyond := otherConsistent.addresses.lookup_eq_some.mpr ⟨shared, id⟩
  simp only [withAddress, addressForTransaction]
  rw [here, beyond]

theorem projectTotals_congr (agree : db.owned projectId = other.owned projectId) :
    db.projectTotals projectId = other.projectTotals projectId := by
  have invoices := congrArg Owned.invoices agree
  have payments := congrArg Owned.outgoingPayments agree
  have deposits := congrArg Owned.onchainTransactions agree
  simp only [projectTotals]
  rw [filter_and_of_owned invoices fun row => row.status = .paid,
    filter_and_of_owned payments fun row => row.status = .succeeded,
    filter_and_of_owned payments fun row => row.status = .pending ∨ row.status = .unknown,
    filter_and_of_owned deposits fun row => row.status = .confirmed,
    filter_and_of_owned deposits fun row => row.status ≠ .confirmed]

end Db

/-- **What a project reads is decided by what it owns.** -/
theorem Read.answer_congr (consistent : db.Consistent) (otherConsistent : other.Consistent)
    (agree : db.owned projectId = other.owned projectId) (read : Read) :
    read.answer collation projectId db = read.answer collation projectId other := by
  have shown : ∀ tx ∈ db.onchainTransactions, tx.projectId = projectId →
      db.withAddress tx = other.withAddress tx :=
    fun tx member project => Db.withAddress_congr consistent otherConsistent agree member project
  cases read with
  | invoice id =>
      have found := find?_and_of_owned (congrArg Owned.invoices agree) fun row => row.id = id
      exact congrArg (fun row => (fetchOne row).map (·.toInvoiceRecord)) found
  | invoiceByIdempotencyKey key =>
      have found := find?_and_of_owned (congrArg Owned.invoices agree)
        fun row => row.idempotencyKey = some key
      exact congrArg (Option.map (·.toInvoiceRecord)) found
  | invoices startingAfter limit =>
      have same := congrArg Owned.invoices agree
      simp only [Db.owned] at same
      simp only [answer, Db.listInvoices, same]
  | payment id =>
      have found := find?_and_of_owned (congrArg Owned.outgoingPayments agree)
        fun row => row.id = id
      exact congrArg (fun row => (fetchOne row).map (·.toPaymentRecord)) found
  | payments startingAfter limit =>
      have same := congrArg Owned.outgoingPayments agree
      simp only [Db.owned] at same
      simp only [answer, Db.listPayments, same]
  | address id =>
      exact congrArg fetchOne
        (find?_and_of_owned (congrArg Owned.onchainAddresses agree) fun row => row.id = id)
  | transaction id =>
      have found : db.getOnchainTransaction projectId id =
          other.getOnchainTransaction projectId id :=
        congrArg fetchOne
          (find?_and_of_owned (congrArg Owned.onchainTransactions agree) fun row => row.id = id)
      simp only [answer, ← found]
      cases fetched : db.getOnchainTransaction projectId id with
      | error error => rfl
      | ok tx =>
          have there := fetchOne_eq_ok.mp fetched
          have matched := List.find?_some there
          simp only [decide_eq_true_eq] at matched
          exact shown tx (List.mem_of_find?_eq_some there) matched.1
  | transactions limit =>
      have same := congrArg Owned.onchainTransactions agree
      simp only [Db.owned] at same
      have listed : db.listOnchainTransactions collation projectId limit =
          other.listOnchainTransactions collation projectId limit := by
        simp only [Db.listOnchainTransactions, same]
      simp only [answer, ← listed]
      refine Except.mapM_congr fun tx member => ?_
      obtain ⟨there, owned⟩ := List.mem_filter.mp
        (List.mem_filter.mp (mem_of_mem_pageBy _ member)).1
      exact shown tx there (of_decide_eq_true owned)
  | event id =>
      exact congrArg fetchOne
        (find?_and_of_owned (congrArg Owned.events agree) fun row => row.id = id)
  | events after kind limit =>
      exact congrArg (pageBy (fun event : EventRecord => event.seq) limit)
        (filter_and_of_owned (congrArg Owned.events agree) fun event =>
          after.getD 0 < event.seq ∧ (kind = none ∨ kind = some event.kind))
  | webhookEndpoints =>
      have same := congrArg Owned.webhookEndpoints agree
      simp only [Db.owned] at same
      simp only [answer, Db.listWebhookEndpoints, same]
  | webhookDeliveries limit =>
      have same := congrArg Owned.webhookDeliveries agree
      simp only [Db.owned] at same
      simp only [answer, Db.listDeliveries, same]
  | quote id =>
      exact congrArg fetchOne
        (find?_and_of_owned (congrArg Owned.sandboxQuotes agree) fun row => row.id = id)
  | payout id =>
      exact congrArg fetchOne
        (find?_and_of_owned (congrArg Owned.sandboxPayouts agree) fun row => row.id = id)
  | totals => exact Db.projectTotals_congr agree
  | sandboxBalances =>
      have same := congrArg Owned.sandboxBalances agree
      simp only [Db.owned] at same
      simp only [answer, Db.balancesOfProject, same]

end Reads

/-! ## The database under all its writers -/

/-- A write to the database, of whichever caller. -/
inductive DbWrite where
  | call (call : Call)
  | createAddress (now : DateTime) (id projectId address label : String)
      (requiredConfirmations : ℤ)
  | recordObservation (now : DateTime) (id : String) (observation : Observation)
  | claimDueDeliveries (now : DateTime) (limit : ℕ) (leaseSecs : ℤ) (locked : List String)
  | recordDelivery (now : DateTime) (id : String) (outcome : DeliveryOutcome)
  | replayDelivery (now : DateTime) (projectId id : String)

/-- The writes of the delivery worker, and a replay. -/
def DbWrite.isDelivery : DbWrite → Bool
  | claimDueDeliveries _ _ _ _ | recordDelivery _ _ _ | replayDelivery _ _ _ => true
  | _ => false

def Db.write : DbWrite → Db → Db
  | .call call, db => db.perform call
  | .createAddress now id projectId address label requiredConfirmations, db =>
      (createAddress now id projectId address label requiredConfirmations db).2
  | .recordObservation now id observation, db => (recordObservation now id observation db).2
  | .claimDueDeliveries now limit leaseSecs locked, db =>
      (claimDueDeliveries now limit leaseSecs locked db).2
  | .recordDelivery now id outcome, db => (recordDelivery now id outcome db).2
  | .replayDelivery now projectId id, db => (replayDelivery now projectId id db).2

/-- The watcher observes deposits to the addresses that it read from the table. -/
def DbWrite.Admitted (db : Db) : DbWrite → Prop
  | recordObservation _ _ observation => observation.address ∈ db.onchainAddresses
  | _ => True

/-- Runs of the writes on a database that starts empty. -/
def database : Machine Db DbWrite where
  initial db := db = {}
  step db write := some (db.write write)

namespace Db

/-! ### What the writes do to a table -/

theorem Performed.onchain {db after : Db} (performed : Performed db after) :
    after.onchainAddresses = db.onchainAddresses ∧
      after.onchainTransactions = db.onchainTransactions := by
  cases performed with
  | invoicesExpired now =>
      obtain ⟨events, nextSeq, deliveries, same⟩ := foldl_emitExpired now
        ((db.invoices.filter fun row => Overdue now row).map (expiredRow now))
        { db with invoices := updateWhere (Overdue now) (expiredRow now) db.invoices }
      rw [afterExpire, same]
      exact ⟨rfl, rfl⟩
  | paymentMoved now dedupeKey next fee resolution row found legal =>
      unfold afterMove emitMoved
      rw [claimOutcome_snd]
      split
      · exact ⟨rfl, rfl⟩
      · exact ⟨rfl, rfl⟩
  | _ => exact ⟨rfl, rfl⟩

theorem Performed.endpointIds {db after : Db} (performed : Performed db after)
    (unique : KeyUnique (fun row : WebhookEndpoint => row.id) db.webhookEndpoints) :
    KeyUnique (fun row : WebhookEndpoint => row.id) after.webhookEndpoints := by
  cases performed with
  | invoicesExpired now =>
      obtain ⟨events, nextSeq, deliveries, same⟩ := foldl_emitExpired now
        ((db.invoices.filter fun row => Overdue now row).map (expiredRow now))
        { db with invoices := updateWhere (Overdue now) (expiredRow now) db.invoices }
      rw [afterExpire, same]
      exact unique
  | paymentMoved now dedupeKey next fee resolution row found legal =>
      rw [afterMove_webhookEndpoints]
      exact unique
  | endpointCreated endpoint idFree => exact unique.append_singleton idFree
  | endpointDisabled projectId id => exact unique.update fun _ => rfl
  | _ => exact unique

/-- An outcome, a claim and a replay write the table of deliveries only. -/
theorem write_deliveries {db : Db} {write : DbWrite}
    (delivery : write.isDelivery = true) :
    ∃ rows, db.write write = { db with webhookDeliveries := rows } := by
  cases write with
  | claimDueDeliveries now limit leaseSecs locked =>
      obtain ⟨due, claimed, -⟩ := claimDueDeliveries_spec now limit leaseSecs locked db
      exact ⟨_, congrArg Prod.snd claimed⟩
  | recordDelivery now id outcome =>
      rcases recordDelivery_cases now id outcome db with ⟨error, failed⟩ | recorded
      · exact ⟨db.webhookDeliveries, congrArg Prod.snd failed⟩
      · exact ⟨_, congrArg Prod.snd recorded⟩
  | replayDelivery now projectId id =>
      rcases replayDelivery_cases now projectId id db with missing | requeued
      · exact ⟨db.webhookDeliveries, congrArg Prod.snd missing⟩
      · exact ⟨_, congrArg Prod.snd requeued⟩
  | _ => cases delivery

/-! ### The references over runs -/

/-- What the writes keep, and `Consistent` follows from. -/
structure Sound (db : Db) : Prop where
  ledger : ∃ credits, Ledger db credits
  payments : PaymentKeys db.outgoingPayments
  addresses : KeyUnique (fun row : AddressRecord => row.id) db.onchainAddresses
  endpoints : KeyUnique (fun row : WebhookEndpoint => row.id) db.webhookEndpoints
  paidTo : ∀ tx ∈ db.onchainTransactions, ∃ address ∈ db.onchainAddresses,
    address.id = tx.addressId ∧ address.projectId = tx.projectId

theorem Sound.consistent {db : Db} (sound : db.Sound) : db.Consistent := by
  obtain ⟨credits, ledger⟩ := sound.ledger
  refine ⟨sound.payments.ids, sound.addresses, sound.endpoints, ledger.quoteIds,
    ledger.payoutIds, sound.paidTo, ?_⟩
  intro payout member
  obtain ⟨quote, found, project, -⟩ := ledger.quoted payout member
  exact ⟨quote, found, project⟩

/-- A write that leaves these tables alone. -/
theorem Sound.of_same {db after : Db} (sound : db.Sound) (sandbox : SameSandbox db after)
    (payments : after.outgoingPayments = db.outgoingPayments)
    (endpoints : after.webhookEndpoints = db.webhookEndpoints)
    (addresses : KeyUnique (fun row : AddressRecord => row.id) after.onchainAddresses)
    (paidTo : ∀ tx ∈ after.onchainTransactions, ∃ address ∈ after.onchainAddresses,
      address.id = tx.addressId ∧ address.projectId = tx.projectId) : after.Sound := by
  obtain ⟨credits, ledger⟩ := sound.ledger
  refine ⟨⟨credits, ledger.same sandbox⟩, ?_, addresses, ?_, paidTo⟩
  · rw [payments]
    exact sound.payments
  · rw [endpoints]
    exact sound.endpoints

theorem Sound.perform {db : Db} (sound : db.Sound) (call : Call) : (db.perform call).Sound := by
  obtain ⟨credits, ledger⟩ := sound.ledger
  have performed := perform_performed call db
  obtain ⟨addresses, deposits⟩ := performed.onchain
  refine ⟨ledger.perform call, performed.payments.keys sound.payments, ?_,
    performed.endpointIds sound.endpoints, ?_⟩
  · rw [addresses]
    exact sound.addresses
  · rw [addresses, deposits]
    exact sound.paidTo

theorem Sound.observed {db after : Db} (sound : db.Sound) {now : DateTime} {id : String}
    {observation : Observation} (known : observation.address ∈ db.onchainAddresses)
    {answer : Except StorageError (Option OnchainTransactionRecord)}
    (observed : Observed now id observation db answer after) : after.Sound := by
  cases observed with
  | refused error missing bars => exact sound
  | unchanged old found same => exact sound
  | detected missing free =>
      refine sound.of_same ⟨rfl, rfl, rfl⟩ rfl rfl sound.addresses ?_
      intro tx member
      rcases List.mem_append.mp member with there | new
      · exact sound.paidTo tx there
      · rw [List.mem_singleton.mp new]
        exact ⟨observation.address, known, rfl, rfl⟩
  | updated old found differs =>
      refine sound.of_same ⟨rfl, rfl, rfl⟩ rfl rfl sound.addresses ?_
      intro tx member
      obtain ⟨earlier, there, rfl⟩ := mem_updateWhere.mp member
      obtain ⟨address, stored, id, owner⟩ := sound.paidTo earlier there
      refine ⟨address, stored, ?_, ?_⟩
      · split
        · exact id
        · exact id
      · split
        · exact owner
        · exact owner

/-- **A write keeps the references within the projects.** -/
theorem Sound.write {db : Db} (sound : db.Sound) {write : DbWrite} (admitted : write.Admitted db) :
    (db.write write).Sound := by
  have delivered : (∃ rows, db.write write = { db with webhookDeliveries := rows }) →
      (db.write write).Sound := by
    rintro ⟨rows, same⟩
    rw [same]
    exact sound.of_same ⟨rfl, rfl, rfl⟩ rfl rfl sound.addresses sound.paidTo
  cases write with
  | call call => exact sound.perform call
  | recordObservation now id observation =>
      exact sound.observed admitted (recordObservation_observed now id observation db)
  | createAddress now id projectId address label requiredConfirmations =>
      rcases createAddress_cases now id projectId address label requiredConfirmations db with
        same | ⟨fresh, made⟩
      · rw [Db.write, same]
        exact sound
      · rw [Db.write, made]
        refine sound.of_same ⟨rfl, rfl, rfl⟩ rfl rfl ?_ ?_
        · exact sound.addresses.append_singleton fun old there => (fresh old there).1
        · intro tx member
          obtain ⟨row, there, refers⟩ := sound.paidTo tx member
          exact ⟨row, List.mem_append_left _ there, refers⟩
  | claimDueDeliveries now limit leaseSecs locked => exact delivered (write_deliveries rfl)
  | recordDelivery now id outcome => exact delivered (write_deliveries rfl)
  | replayDelivery now projectId id => exact delivered (write_deliveries rfl)

theorem consistent_of_reachable {db : Db}
    (reached : database.ReachableBy (fun db write => write.Admitted db) db) : db.Consistent := by
  refine (reached.invariant Sound ?_ ?_).consistent
  · rintro _ rfl
    exact ⟨⟨[], ledger_empty rfl rfl rfl⟩, ⟨KeyUnique.nil, KeyUnique.nil⟩, KeyUnique.nil,
      KeyUnique.nil, fun _ member => by cases member⟩
  · intro db write next _ sound admitted step
    cases step
    exact sound.write admitted

end Db

/-! ## Writes -/

/-- The writes that the API makes for the project of a key. -/
inductive ProjectWrite where
  | insertInvoice (now : DateTime) (new : NewInvoice)
  | beginPayment (now : DateTime) (new : NewPayment)
  | transitionPayment (now : DateTime) (dedupeKey : Option String) (paymentId : String)
      (next : PaymentStatus) (resolution : Resolution)
  | createAddress (now : DateTime) (id address label : String) (requiredConfirmations : ℤ)
  | insertQuote (now : DateTime) (id : String) (new : NewQuote)
  | reservePayout (now clock : DateTime) (request : Reservation)
  | advancePayout (now : DateTime) (payoutId : String) (next : PayoutStatus)
  | attachPaymentToPayout (now : DateTime) (payoutId paymentId : String)
  | creditSandboxBalance (currency : String) (minor : ℕ)
  | createWebhookEndpoint (now : DateTime) (id url secret : String)
  | disableWebhookEndpoint (id : String)
  | testEndpoint (now : DateTime) (id : String)
  | replayDelivery (now : DateTime) (id : String)

namespace ProjectWrite

/-- The write with the project of the key, where it takes one. -/
def dbWrite (projectId : String) : ProjectWrite → DbWrite
  | insertInvoice now new => .call (.insertInvoice now { new with projectId := projectId })
  | beginPayment now new => .call (.beginPayment now { new with projectId := projectId })
  | transitionPayment now dedupeKey paymentId next resolution =>
      .call (.transitionPayment now dedupeKey paymentId next resolution)
  | createAddress now id address label requiredConfirmations =>
      .createAddress now id projectId address label requiredConfirmations
  | insertQuote now id new => .call (.insertQuote now id { new with projectId := projectId })
  | reservePayout now clock request =>
      .call (.reservePayout now clock { request with projectId := projectId })
  | advancePayout now payoutId next => .call (.advancePayout now payoutId next)
  | attachPaymentToPayout now payoutId paymentId =>
      .call (.attachPaymentToPayout now payoutId paymentId)
  | creditSandboxBalance currency minor => .call (.creditSandboxBalance projectId currency minor)
  | createWebhookEndpoint now id url secret =>
      .call (.createWebhookEndpoint now id projectId url secret)
  | disableWebhookEndpoint id => .call (.disableWebhookEndpoint projectId id)
  | testEndpoint now id => .call (.testEndpoint now projectId id)
  | replayDelivery now id => .replayDelivery now projectId id

/-- The caller found the row among those of the project. -/
def Scoped (projectId : String) (db : Db) : ProjectWrite → Prop
  | transitionPayment _ _ paymentId _ _ =>
      ∃ row ∈ db.outgoingPayments, row.id = paymentId ∧ row.projectId = projectId
  | advancePayout _ payoutId _ | attachPaymentToPayout _ payoutId _ =>
      ∃ row ∈ db.sandboxPayouts, row.id = payoutId ∧ row.projectId = projectId
  | _ => True

end ProjectWrite

namespace Db

/-- What the endpoints of another project are decides its deliveries. -/
theorem owned_withEndpoints {other : String} {db : Db} {endpoints : List WebhookEndpoint}
    (rows : (endpoints.filter fun row => row.projectId = other) =
      db.webhookEndpoints.filter fun row => row.projectId = other)
    (targets : ∀ id, (∃ row ∈ endpoints, row.id = id ∧ row.projectId = other) ↔
      ∃ row ∈ db.webhookEndpoints, row.id = id ∧ row.projectId = other) :
    owned other { db with webhookEndpoints := endpoints } = db.owned other := by
  have deliveries : (db.webhookDeliveries.filter fun row =>
      DeliversTo other { db with webhookEndpoints := endpoints } row) =
        db.webhookDeliveries.filter fun row => db.DeliversTo other row :=
    List.filter_congr fun row _ => decide_eq_decide.mpr (targets row.endpointId)
  exact congrArg₂ (fun endpoints deliveries =>
    { db.owned other with webhookEndpoints := endpoints, webhookDeliveries := deliveries })
    rows deliveries

section Frames

variable {projectId other : String} (apart : projectId ≠ other)

include apart

theorem owned_emit {tx : Db}
    (unique : KeyUnique (fun row : WebhookEndpoint => row.id) tx.webhookEndpoints)
    (now : DateTime) (kind resourceId : String) (data : Value) (simulated : Bool) :
    (tx.emit now projectId kind resourceId data simulated).owned other = tx.owned other := by
  have events : ((tx.emit now projectId kind resourceId data simulated).events.filter
      fun row => row.projectId = other) = tx.events.filter fun row => row.projectId = other := by
    refine filter_append_other fun event member => ?_
    rw [List.mem_singleton.mp member]
    exact decide_eq_false apart
  have deliveries : ((tx.emit now projectId kind resourceId data simulated).webhookDeliveries.filter
      fun row => tx.DeliversTo other row) =
        tx.webhookDeliveries.filter fun row => tx.DeliversTo other row := by
    refine filter_append_other fun delivery member => decide_eq_false ?_
    rintro ⟨endpoint, there, id, owner⟩
    obtain ⟨target, enabled, rfl⟩ := List.mem_map.mp member
    obtain ⟨stored, chosen⟩ := List.mem_filter.mp enabled
    have same := unique.eq_of_key there stored id
    rw [same] at owner
    exact apart ((of_decide_eq_true chosen).1.symm.trans owner)
  exact congrArg₂ (fun events deliveries =>
    { tx.owned other with events := events, webhookDeliveries := deliveries }) events deliveries

/-- An event about a change that leaves what the other owns as it is. -/
theorem owned_emit_of {db tx : Db}
    (unique : KeyUnique (fun row : WebhookEndpoint => row.id) db.webhookEndpoints)
    (endpoints : tx.webhookEndpoints = db.webhookEndpoints)
    (same : tx.owned other = db.owned other) (now : DateTime) (kind resourceId : String)
    (data : Value) (simulated : Bool) :
    (tx.emit now projectId kind resourceId data simulated).owned other = db.owned other := by
  rw [← endpoints] at unique
  exact (owned_emit apart unique now kind resourceId data simulated).trans same

theorem upsertBalance_other {currency : String} {minor : ℤ} {tx after : Db}
    (written : upsertBalance projectId currency minor tx = .ok after) :
    (after.sandboxBalances.filter fun row => row.projectId = other) =
      tx.sandboxBalances.filter fun row => row.projectId = other := by
  unfold upsertBalance at written
  split at written
  · cases written
    exact filter_append_singleton_other (decide_eq_false apart)
  · obtain ⟨sum, -, rfl⟩ := Except.exists_of_map_eq_ok written
    refine filter_updateWhere_other fun row _ chosen => ?_
    have owner : row.projectId ≠ other := fun same =>
      apart ((Prod.mk.inj chosen).1.symm.trans same)
    exact ⟨decide_eq_false owner, decide_eq_false owner⟩

theorem owned_insertInvoice (now : DateTime) (new : NewInvoice) (db : Db)
    (project : new.projectId = projectId) :
    (insertInvoice now new db).2.owned other = db.owned other := by
  cases ended : insertInvoice now new db with
  | mk answer after =>
      cases insertInvoice_inserted ended with
      | refused error => rfl
      | inserted fits positive fresh =>
          refine congrArg (fun rows => { db.owned other with invoices := rows })
            (filter_append_singleton_other ?_)
          exact decide_eq_false fun same => apart (project.symm.trans same)

theorem owned_beginPayment (now : DateTime) (new : NewPayment) (db : Db)
    (project : new.projectId = projectId) :
    (beginPayment now new db).2.owned other = db.owned other := by
  cases ended : beginPayment now new db with
  | mk answer after =>
      cases beginPayment_begun ended with
      | inserted fits positive keyFree idFree =>
          refine congrArg (fun rows => { db.owned other with outgoingPayments := rows })
            (filter_append_singleton_other ?_)
          exact decide_eq_false fun same => apart (project.symm.trans same)
      | _ => rfl

theorem owned_createAddress (now : DateTime) (id address label : String)
    (requiredConfirmations : ℤ) (db : Db) :
    (createAddress now id projectId address label requiredConfirmations db).2.owned other =
      db.owned other := by
  rcases createAddress_cases now id projectId address label requiredConfirmations db with
    same | ⟨fresh, made⟩
  · rw [same]
  · rw [made]
    refine congrArg (fun rows => { db.owned other with onchainAddresses := rows })
      (filter_append_singleton_other ?_)
    exact decide_eq_false apart

theorem owned_insertQuote (now : DateTime) (id : String) (new : NewQuote) (db : Db)
    (project : new.projectId = projectId) :
    (insertQuote now id new db).2.owned other = db.owned other := by
  cases ended : insertQuote now id new db with
  | mk answer after =>
      cases insertQuote_inserted ended with
      | refused error => rfl
      | inserted positive idFree =>
          refine congrArg (fun rows => { db.owned other with sandboxQuotes := rows })
            (filter_append_singleton_other ?_)
          exact decide_eq_false fun same => apart (project.symm.trans same)

theorem owned_creditSandboxBalance (currency : String) (minor : ℕ) (db : Db) :
    (creditSandboxBalance projectId currency minor db).2.owned other = db.owned other := by
  cases ended : creditSandboxBalance projectId currency minor db with
  | mk answer after =>
      rcases creditSandboxBalance_cases ended with ⟨-, rfl⟩ | ⟨-, written⟩
      · rfl
      · rw [upsertBalance_eq written]
        exact congrArg (fun rows => { db.owned other with sandboxBalances := rows })
          (upsertBalance_other apart written)

theorem owned_createWebhookEndpoint (now : DateTime) (id url secret : String) (db : Db) :
    (createWebhookEndpoint now id projectId url secret db).2.owned other = db.owned other := by
  rcases createWebhookEndpoint_cases now id projectId url secret db with same | ⟨fresh, made⟩
  · rw [same]
  · rw [made]
    refine owned_withEndpoints (filter_append_singleton_other (decide_eq_false apart)) ?_
    intro target
    constructor
    · rintro ⟨row, member, same, owner⟩
      rcases List.mem_append.mp member with old | new
      · exact ⟨row, old, same, owner⟩
      · cases List.mem_singleton.mp new
        exact absurd owner apart
    · rintro ⟨row, member, found⟩
      exact ⟨row, List.mem_append_left _ member, found⟩

theorem owned_disableWebhookEndpoint (id : String) (db : Db) :
    (disableWebhookEndpoint projectId id db).2.owned other = db.owned other := by
  rcases disableWebhookEndpoint_cases projectId id db with same | made
  · rw [same]
  · rw [made]
    have apart' : ∀ row : WebhookEndpoint, row.projectId = projectId → row.projectId ≠ other :=
      fun row owner same => apart (owner.symm.trans same)
    refine owned_withEndpoints (filter_updateWhere_other fun row _ chosen =>
      ⟨decide_eq_false (apart' row chosen.2), decide_eq_false (apart' row chosen.2)⟩) ?_
    intro target
    constructor
    · rintro ⟨row, member, found⟩
      obtain ⟨old, there, rfl⟩ := mem_updateWhere.mp member
      refine ⟨old, there, ?_⟩
      split at found
      · exact found
      · exact found
    · rintro ⟨row, member, found⟩
      refine ⟨_, mem_updateWhere.mpr ⟨row, member, rfl⟩, ?_⟩
      split
      · exact found
      · exact found

theorem owned_replayDelivery {db : Db}
    (unique : KeyUnique (fun row : WebhookEndpoint => row.id) db.webhookEndpoints)
    (now : DateTime) (id : String) :
    (replayDelivery now projectId id db).2.owned other = db.owned other := by
  rcases replayDelivery_cases now projectId id db with missing | requeued
  · rw [missing]
  · rw [requeued]
    have rows : ((db.withRequeued now projectId id).webhookDeliveries.filter
        fun row => db.DeliversTo other row) =
          db.webhookDeliveries.filter fun row => db.DeliversTo other row := by
      refine filter_updateWhere_other fun row _ chosen => ?_
      have others : ¬ db.DeliversTo other row := by
        rintro ⟨endpoint, there, target, owner⟩
        obtain ⟨mine, stored, same, project⟩ := chosen.2
        cases unique.eq_of_key there stored (target.trans same.symm)
        exact apart (project.symm.trans owner)
      exact ⟨decide_eq_false others, decide_eq_false others⟩
    exact congrArg (fun rows => { db.owned other with webhookDeliveries := rows }) rows

/-- A payment moves under its identifier alone. -/
theorem owned_transitionPayment {db : Db} (consistent : db.Consistent) (now : DateTime)
    (dedupeKey : Option String) {paymentId : String} (next : PaymentStatus)
    (resolution : Resolution)
    (inScope : ∃ row ∈ db.outgoingPayments, row.id = paymentId ∧ row.projectId = projectId) :
    (transitionPayment now dedupeKey paymentId next resolution db).2.owned other =
      db.owned other := by
  cases ended : transitionPayment now dedupeKey paymentId next resolution db with
  | mk answer after =>
      cases transitionPayment_moved ended with
      | moved row found unclaimed legal fee fits =>
          obtain ⟨mine, member, id, rfl⟩ := inScope
          have same : mine = row := Option.some.inj
            ((consistent.payments.lookup_eq_some.mpr ⟨member, id⟩).symm.trans found)
          subst same
          have moved := filter_updateWhere_key_other consistent.payments member
            (fun row => row.projectId) (resolvedRow now next fee resolution) (fun _ => rfl)
            apart
          have written := congrArg (fun rows => { db.owned other with outgoingPayments := rows })
            moved
          unfold afterMove emitMoved
          rw [claimOutcome_snd]
          split
          · refine owned_emit_of apart consistent.endpoints ?_ ?_ now _ _ _ _
            · rfl
            · exact written
          · exact written
      | _ => rfl

theorem owned_reservePayout {db : Db} (consistent : db.Consistent) (now clock : DateTime)
    (request : Reservation) (project : request.projectId = projectId) :
    (reservePayout now clock request db).2.owned other = db.owned other := by
  subst project
  cases ended : reservePayout now clock request db with
  | mk answer after =>
      cases reservePayout_reserved ended with
      | refused error => rfl
      | replayed prior found quote scenario => rfl
      | reserved noPrior quote taken checked payout work written =>
          obtain ⟨member, project, -⟩ := takeQuote_eq_ok taken
          obtain ⟨rfl, -, balance, upserted, rfl⟩ := writeReservation_eq_ok written
          have quotes := filter_updateWhere_key_other consistent.quotes member
            (fun row => row.projectId) usedRow (fun _ => rfl) (project.trans_ne apart)
          have balances := upsertBalance_other apart upserted
          have payouts : ((db.sandboxPayouts ++ [reservedRow now request]).filter
              fun row => row.projectId = other) =
                db.sandboxPayouts.filter fun row => row.projectId = other :=
            filter_append_singleton_other (decide_eq_false apart)
          refine owned_emit_of apart consistent.endpoints ?_ ?_ now _ _ _ _
          · rfl
          · exact Owned.ext rfl rfl rfl rfl rfl rfl rfl quotes payouts balances

theorem refundQuote_other {quoteId : String} {tx after : Db} {quote : QuoteRecord}
    (found : tx.findQuote quoteId = some quote) (project : quote.projectId = projectId)
    (refunded : refundQuote quoteId tx = .ok after) :
    (after.sandboxBalances.filter fun row => row.projectId = other) =
      tx.sandboxBalances.filter fun row => row.projectId = other := by
  simp only [refundQuote, found] at refunded
  split at refunded
  · cases refunded
    rfl
  · obtain ⟨sum, -, rfl⟩ := Except.exists_of_map_eq_ok refunded
    refine filter_updateWhere_other fun row _ chosen => ?_
    have owner : row.projectId ≠ other := fun same =>
      apart (project.symm.trans ((Prod.mk.inj chosen).1.symm.trans same))
    exact ⟨decide_eq_false owner, decide_eq_false owner⟩

/-- A payout advances under its identifier alone, and is refunded through its quote. -/
theorem owned_advancePayout {db : Db} (consistent : db.Consistent) (now : DateTime)
    {payoutId : String} (next : PayoutStatus)
    (inScope : ∃ row ∈ db.sandboxPayouts, row.id = payoutId ∧ row.projectId = projectId) :
    (advancePayout now payoutId next db).2.owned other = db.owned other := by
  cases ended : advancePayout now payoutId next db with
  | mk answer after =>
      cases advancePayout_advanced ended with
      | refused error => rfl
      | repeated current found same => rfl
      | advanced current found legal payout work written =>
          obtain ⟨mine, member, id, rfl⟩ := inScope
          have same : mine = current := Option.some.inj
            ((consistent.payouts.lookup_eq_some.mpr ⟨member, id⟩).symm.trans found)
          subst same
          obtain ⟨rfl, balance, refunded, rfl⟩ := writeAdvance_eq_ok written
          have payouts := filter_updateWhere_key_other consistent.payouts member
            (fun row => row.projectId) (advancedRow now next) (fun _ => rfl) apart
          have balances : (balance.sandboxBalances.filter fun row => row.projectId = other) =
              db.sandboxBalances.filter fun row => row.projectId = other := by
            split at refunded
            · obtain ⟨quote, priced, project⟩ := consistent.quoted mine member
              have priced : (db.withAdvanced now mine.id next).findQuote mine.quoteId =
                some quote := priced
              have kept := refundQuote_other apart priced project refunded
              exact kept
            · cases refunded
              rfl
          refine owned_emit_of apart consistent.endpoints ?_ ?_ now _ _ _ _
          · rfl
          · exact Owned.ext rfl rfl rfl rfl rfl rfl rfl rfl payouts balances

theorem owned_attachPaymentToPayout {db : Db} (consistent : db.Consistent) (now : DateTime)
    {payoutId : String} (paymentId : String)
    (inScope : ∃ row ∈ db.sandboxPayouts, row.id = payoutId ∧ row.projectId = projectId) :
    (attachPaymentToPayout now payoutId paymentId db).2.owned other = db.owned other := by
  cases ended : attachPaymentToPayout now payoutId paymentId db with
  | mk answer after =>
      rcases attachPaymentToPayout_cases ended with rfl | rfl
      · rfl
      · obtain ⟨mine, member, rfl, rfl⟩ := inScope
        exact congrArg (fun rows => { db.owned other with sandboxPayouts := rows })
          (filter_updateWhere_key_other consistent.payouts member (fun row => row.projectId)
            (attachedRow now paymentId) (fun _ => rfl) apart)

end Frames

end Db

namespace ProjectWrite

/-- **What a project writes leaves what another owns as it is.** -/
theorem frame {projectId other : String} {db : Db} (consistent : db.Consistent)
    (apart : projectId ≠ other) (write : ProjectWrite) (inScope : write.Scoped projectId db) :
    (db.write (write.dbWrite projectId)).owned other = db.owned other := by
  cases write with
  | insertInvoice now new => exact Db.owned_insertInvoice apart now _ db rfl
  | beginPayment now new => exact Db.owned_beginPayment apart now _ db rfl
  | transitionPayment now dedupeKey paymentId next resolution =>
      exact Db.owned_transitionPayment apart consistent now dedupeKey next resolution inScope
  | createAddress now id address label requiredConfirmations =>
      exact Db.owned_createAddress apart now id address label requiredConfirmations db
  | insertQuote now id new => exact Db.owned_insertQuote apart now id _ db rfl
  | reservePayout now clock request =>
      exact Db.owned_reservePayout apart consistent now clock _ rfl
  | advancePayout now payoutId next =>
      exact Db.owned_advancePayout apart consistent now next inScope
  | attachPaymentToPayout now payoutId paymentId =>
      exact Db.owned_attachPaymentToPayout apart consistent now paymentId inScope
  | creditSandboxBalance currency minor =>
      exact Db.owned_creditSandboxBalance apart currency minor db
  | createWebhookEndpoint now id url secret =>
      exact Db.owned_createWebhookEndpoint apart now id url secret db
  | disableWebhookEndpoint id => exact Db.owned_disableWebhookEndpoint apart id db
  | testEndpoint now id => exact Db.owned_emit apart consistent.endpoints now _ id _ _
  | replayDelivery now id => exact Db.owned_replayDelivery apart consistent.endpoints now id

/-! ### The lookup before a write -/

/-- A payment of the project stays a payment of the project. -/
theorem payment_kept {db : Db} {rows : List PaymentRow} (changed : Db.PaymentsChanged db rows)
    {id projectId : String}
    (owned : ∃ row ∈ db.outgoingPayments, row.id = id ∧ row.projectId = projectId) :
    ∃ row ∈ rows, row.id = id ∧ row.projectId = projectId := by
  obtain ⟨row, member, same⟩ := owned
  cases changed with
  | same kept =>
      rw [kept]
      exact ⟨row, member, same⟩
  | begun now new keyFree idFree added =>
      rw [added]
      exact ⟨row, List.mem_append_left _ member, same⟩
  | moved now next fee resolution moved found legal set =>
      rw [set]
      refine ⟨_, mem_updateWhere.mpr ⟨row, member, rfl⟩, ?_⟩
      split
      · exact same
      · exact same

theorem payout_kept {db : Db} {rows : List PayoutRecord} (changed : Db.PayoutsChanged db rows)
    {id projectId : String}
    (owned : ∃ row ∈ db.sandboxPayouts, row.id = id ∧ row.projectId = projectId) :
    ∃ row ∈ rows, row.id = id ∧ row.projectId = projectId := by
  obtain ⟨row, member, same⟩ := owned
  cases changed with
  | same kept =>
      rw [kept]
      exact ⟨row, member, same⟩
  | reserved now request fresh added =>
      rw [added]
      exact ⟨row, List.mem_append_left _ member, same⟩
  | advanced now current next found legal set =>
      rw [set]
      refine ⟨_, mem_updateWhere.mpr ⟨row, member, rfl⟩, ?_⟩
      split
      · exact same
      · exact same
  | attached now payoutId paymentId set =>
      rw [set]
      refine ⟨_, mem_updateWhere.mpr ⟨row, member, rfl⟩, ?_⟩
      split
      · exact same
      · exact same

/-- A write that is no storage call of the API leaves payments and payouts alone. -/
theorem changed_of_write (db : Db) (write : DbWrite) :
    Db.PaymentsChanged db (db.write write).outgoingPayments ∧
      Db.PayoutsChanged db (db.write write).sandboxPayouts := by
  have delivered : (∃ rows, db.write write = { db with webhookDeliveries := rows }) →
      Db.PaymentsChanged db (db.write write).outgoingPayments ∧
        Db.PayoutsChanged db (db.write write).sandboxPayouts := by
    rintro ⟨rows, same⟩
    rw [same]
    exact ⟨.same rfl, .same rfl⟩
  cases write with
  | call call =>
      have performed := Db.perform_performed call db
      exact ⟨performed.payments, performed.payouts⟩
  | createAddress now id projectId address label requiredConfirmations =>
      rcases Db.createAddress_cases now id projectId address label requiredConfirmations db with
        same | ⟨fresh, made⟩
      · rw [Db.write, same]
        exact ⟨.same rfl, .same rfl⟩
      · rw [Db.write, made]
        exact ⟨.same rfl, .same rfl⟩
  | recordObservation now id observation =>
      have observed := Db.recordObservation_observed now id observation db
      rw [Db.write]
      generalize (Db.recordObservation now id observation db).1 = answer,
        (Db.recordObservation now id observation db).2 = after at observed ⊢
      cases observed with
      | _ => exact ⟨.same rfl, .same rfl⟩
  | claimDueDeliveries now limit leaseSecs locked => exact delivered (Db.write_deliveries rfl)
  | recordDelivery now id outcome => exact delivered (Db.write_deliveries rfl)
  | replayDelivery now projectId id => exact delivered (Db.write_deliveries rfl)

theorem Scoped.written {projectId : String} {db : Db} {write : ProjectWrite}
    (inScope : write.Scoped projectId db) (other : DbWrite) :
    write.Scoped projectId (db.write other) := by
  obtain ⟨payments, payouts⟩ := changed_of_write db other
  cases write with
  | transitionPayment now dedupeKey paymentId next resolution =>
      exact payment_kept payments inScope
  | advancePayout now payoutId next => exact payout_kept payouts inScope
  | attachPaymentToPayout now payoutId paymentId => exact payout_kept payouts inScope
  | _ => trivial

/-- What was found before is still there when the write comes. -/
theorem Scoped.later {projectId : String} {earlier db : Db} {write : ProjectWrite}
    (inScope : write.Scoped projectId earlier) (leads : database.Leads earlier db) :
    write.Scoped projectId db := by
  induction leads with
  | refl => exact inScope
  | tail before step ih =>
      obtain ⟨other, step⟩ := step
      cases step
      exact ih.written other

end ProjectWrite

/-! ## Isolation -/

/-- **Tenant isolation.** The databases that runs reach are consistent. What a project reads of
a consistent database is decided by what it owns. A write for a project, of a row it found
at some time before, changes nothing that another project owns. -/
theorem tenants_isolated (collation : Collation) (projectId : String) :
    (∀ db, database.ReachableBy (fun db write => write.Admitted db) db → db.Consistent) ∧
    (∀ db other : Db, db.Consistent → other.Consistent →
      db.owned projectId = other.owned projectId →
      ∀ read : Read, read.answer collation projectId db = read.answer collation projectId other) ∧
    ∀ (write : ProjectWrite) (earlier db after : Db), write.Scoped projectId earlier →
      database.Leads earlier db → db.Consistent →
      database.step db (write.dbWrite projectId) = some after →
      ∀ other, other ≠ projectId → after.owned other = db.owned other := by
  refine ⟨?_, ?_, ?_⟩
  · exact fun db reached => Db.consistent_of_reachable reached
  · exact fun db other consistent otherConsistent agree read =>
      Read.answer_congr consistent otherConsistent agree read
  · intro write earlier db after inScope leads consistent step other apart
    cases step
    exact write.frame consistent (Ne.symm apart) (inScope.later leads)

/-- Two projects pay under the same key, and the payment of the second moves. -/
theorem tenants_isolated_two :
    ∃ one two moved : Db,
      database.step {} ((ProjectWrite.beginPayment 0
        ⟨"pay_1", "", "key", [1], "lnbcrt1", "hash", 5, .null⟩).dbWrite "prj_1") = some one ∧
      database.step one ((ProjectWrite.beginPayment 1
        ⟨"pay_2", "", "key", [2], "lnbcrt2", "hash", 7, .null⟩).dbWrite "prj_2") = some two ∧
      database.step two ((ProjectWrite.transitionPayment 2 none "pay_2" .pending {}).dbWrite
        "prj_2") = some moved ∧
      ∀ collation,
        (Read.payments none 10).answer collation "prj_1" one =
            (Read.payments none 10).answer collation "prj_1" two ∧
          moved.owned "prj_1" = two.owned "prj_1" := by
  have begun : database.ReachableBy (fun db write => write.Admitted db) {} := .start rfl
  have called : ∀ {db : Db} (call : Call),
      database.ReachableBy (fun db write => write.Admitted db) db →
      database.ReachableBy (fun db write => write.Admitted db) (db.write (.call call)) :=
    fun call reached =>
      .step reached (show DbWrite.Admitted _ (.call call) from trivial) rfl
  refine ⟨_, _, _, rfl, rfl, rfl, fun collation => ⟨?_, ?_⟩⟩
  · obtain ⟨consistent, reads, -⟩ := tenants_isolated collation "prj_1"
    exact reads _ _ (consistent _ (called _ begun)) (consistent _ (called _ (called _ begun))) rfl _
  · obtain ⟨consistent, -, writes⟩ := tenants_isolated collation "prj_2"
    refine writes (.transitionPayment 2 none "pay_2" .pending {}) _ _ _ ?_ (.refl _)
      (consistent _ (called _ (called _ begun))) rfl "prj_1" (by decide)
    exact ⟨_, List.mem_cons_of_mem _ List.mem_cons_self, rfl, rfl⟩

end Safrod

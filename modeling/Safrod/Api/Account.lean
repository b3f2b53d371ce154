import Safrod.Api.Feed
import Safrod.Api.Pagination
import Safrod.Api.Tenancy
import Safrod.Library.Log
import Safrod.Storage.InvoiceHistory
import Safrod.Storage.PaymentHistory

/-!
# The feed accounts for the balance

An event is written in the transaction of the change it reports. A client that reads the feed
of its project from the start, page after page, and adds up what the events carry
(`Tally`) then has what `projectTotals` sums over the rows: what invoices received, what
payments sent and paid in fees, and the deposits, confirmed and not.

`Accounted` is the invariant of all writers. `readFeed_eq` is about the pages.
-/

set_option autoImplicit false

namespace Safrod

open Table

/-! ## What a client reads in an event -/

namespace Value

/-- A field of an object. -/
def field (name : String) : Value → Option Value
  | object fields => (fields.find? fun entry => entry.1 = name).map Prod.snd
  | _ => none

/-- The number in a field, or nothing to add. -/
def amount (name : String) (data : Value) : ℤ :=
  match data.field name with
  | some (number value) => value
  | _ => 0

def text (name : String) (data : Value) : String :=
  match data.field name with
  | some (string value) => value
  | _ => ""

end Value

/-- A deposit as its events show it. -/
structure Deposit where
  id : String
  amountSat : ℤ
  status : String

/-- What was received for an invoice. -/
def receivedIn (event : EventRecord) : ℤ :=
  if event.kind = "invoice.paid" then event.data.amount "amount_received_msat" else 0

/-- What a payment sent. -/
def sentIn (event : EventRecord) : ℤ :=
  if event.kind = "payment.succeeded" then event.data.amount "amount_msat" else 0

/-- What a payment paid in fees. -/
def feesIn (event : EventRecord) : ℤ :=
  if event.kind = "payment.succeeded" then event.data.amount "fee_msat" else 0

/-- The deposit that an event shows. -/
def depositIn (event : EventRecord) : Option Deposit :=
  if event.kind ∈ [detectedKind, updatedKind, confirmedKind] then
    some ⟨event.data.text "transaction_id", event.data.amount "amount_sat",
      event.data.text "status"⟩
  else none

structure Tally where
  receivedMsat : ℤ
  sentMsat : ℤ
  feesMsat : ℤ
  confirmedSat : ℤ
  unconfirmedSat : ℤ
  deriving DecidableEq

/-- The deposits as their latest events show them. -/
def depositsOf (feed : List EventRecord) : List Deposit :=
  replay Deposit.id depositIn feed

def tallyOf (feed : List EventRecord) : Tally where
  receivedMsat := (feed.map receivedIn).sum
  sentMsat := (feed.map sentIn).sum
  feesMsat := (feed.map feesIn).sum
  confirmedSat := (((depositsOf feed).filter fun deposit => deposit.status = "confirmed").map
    Deposit.amountSat).sum
  unconfirmedSat := (((depositsOf feed).filter fun deposit => deposit.status ≠ "confirmed").map
    Deposit.amountSat).sum

/-- `GET /v1/balances` with a key of the project. Simulated money has a section of its own. -/
def balances (network : Network) (collation : Collation) (db : Db) (projectId : String) :
    Except ApiError Value := do
  let totals ← (db.projectTotals projectId).mapError StorageError.toApiError
  let sandbox := db.balancesOfProject collation projectId
  .ok (.object [
    ("object", .string "balances"),
    ("network", .string network.asStr),
    ("ledger", .object [
      ("description", .string
        "Totals from settled records in this project's ledger, not node balances."),
      ("lightning_received_msat", .number totals.lightningReceivedMsat),
      ("lightning_sent_msat", .number totals.lightningSentMsat),
      ("lightning_fees_msat", .number totals.lightningFeesMsat),
      ("lightning_in_flight_msat", .number totals.lightningInFlightMsat),
      ("onchain_confirmed_sat", .number totals.onchainConfirmedSat),
      ("onchain_unconfirmed_sat", .number totals.onchainUnconfirmedSat),
      ("simulated", .bool false)]),
    ("simulated_fiat", .object [
      ("description", .string "Synthetic sandbox balances. Not real money."),
      ("balances", .array (sandbox.map fun (currency, minor) =>
        .object [("currency", .string currency), ("minor_units", .number minor)])),
      ("simulated", .bool true)])])

/-- A client that asks for page after page, each after the number that the last one gave. -/
def readFeed (db : Db) (projectId : String) (limit : Option ℤ) :
    ℕ → Option ℤ → Except ApiError (List EventRecord)
  | 0, _ => .ok []
  | requests + 1, after => do
      let list ← getEvents db projectId after none limit
      match list.nextAfter with
      | none => .ok list.data
      | some last => do
          let later ← readFeed db projectId limit requests (some last)
          .ok (list.data ++ later)

/-! ## What the rows weigh -/

def InvoiceRow.received (projectId : String) (row : InvoiceRow) : ℤ :=
  if row.projectId = projectId ∧ row.status = .paid then row.amountReceivedMsat.getD 0 else 0

def PaymentRow.sent (projectId : String) (row : PaymentRow) : ℤ :=
  if row.projectId = projectId ∧ row.status = .succeeded then row.amountMsat else 0

def PaymentRow.fees (projectId : String) (row : PaymentRow) : ℤ :=
  if row.projectId = projectId ∧ row.status = .succeeded then row.feeMsat.getD 0 else 0

def OnchainTransactionRecord.deposit (row : OnchainTransactionRecord) : Deposit where
  id := row.id
  amountSat := row.amountSat
  status := row.status.asStr

/-- The deposit, for its project. -/
def OnchainTransactionRecord.shown (projectId : String) (row : OnchainTransactionRecord) :
    Option Deposit :=
  if row.projectId = projectId then some row.deposit else none

namespace Db

def feed (projectId : String) (db : Db) : List EventRecord :=
  db.events.filter fun event => event.projectId = projectId

/-- **The feed of a project accounts for its rows.** -/
structure Accounted (projectId : String) (db : Db) : Prop where
  received : Tallied (InvoiceRow.received projectId) receivedIn db.invoices (db.feed projectId)
  sent : Tallied (PaymentRow.sent projectId) sentIn db.outgoingPayments (db.feed projectId)
  fees : Tallied (PaymentRow.fees projectId) feesIn db.outgoingPayments (db.feed projectId)
  deposits : Replicated Deposit.id depositIn (OnchainTransactionRecord.shown projectId)
    db.onchainTransactions (db.feed projectId)

/-! ## The order of the events -/

/-- Events are numbered upwards, from one on. -/
structure EventOrder (nextSeq : ℕ) (events : List EventRecord) : Prop where
  ascending : Ascending (fun event : EventRecord => event.seq) events
  positive : 0 < nextSeq
  numbered : ∀ event ∈ events, 0 < event.seq ∧ event.seq < nextSeq

theorem EventOrder.append {nextSeq : ℕ} {events : List EventRecord}
    (order : EventOrder nextSeq events) {event : EventRecord} (next : event.seq = nextSeq) :
    EventOrder (nextSeq + 1) (events ++ [event]) := by
  refine ⟨List.pairwise_append.mpr ⟨order.ascending, List.pairwise_singleton _ _, ?_⟩,
    Nat.succ_pos _, ?_⟩
  · intro earlier member last here
    have below := (order.numbered earlier member).2
    rw [← next] at below
    rw [List.mem_singleton.mp here]
    exact below
  · intro other member
    rcases List.mem_append.mp member with earlier | here
    · exact ⟨(order.numbered other earlier).1, Nat.lt_succ_of_lt (order.numbered other earlier).2⟩
    · rw [List.mem_singleton.mp here, next]
      exact ⟨order.positive, Nat.lt_succ_self _⟩

theorem EventOrder.performed {db after : Db} (order : EventOrder db.nextSeq db.events)
    (performed : Performed db after) : EventOrder after.nextSeq after.events := by
  rcases performed.emissions with emissions | ⟨kept, -⟩
  · refine Relation.ReflTransGen.rec (motive := fun tables _ =>
      EventOrder tables.nextSeq tables.events) order ?_ emissions
    rintro _ _ - ⟨now, projectId, kind, resourceId, data, simulated, work⟩ before
    exact before.append rfl
  · have events : after.events = db.events := congrArg OutboxTables.events kept
    have next : after.nextSeq = db.nextSeq := congrArg OutboxTables.nextSeq kept
    rw [events, next]
    exact order

/-! ## Events without an amount -/

/-- An event that neither moves an amount nor shows a deposit. -/
structure Silent (kind : String) : Prop where
  received : kind ≠ "invoice.paid"
  sent : kind ≠ "payment.succeeded"
  deposit : kind ∉ [detectedKind, updatedKind, confirmedKind]

theorem silent_expired : Silent "invoice.expired" := by
  refine ⟨?_, ?_, ?_⟩ <;> decide

theorem silent_test : Silent "webhook.test" := by
  refine ⟨?_, ?_, ?_⟩ <;> decide

theorem silent_payout (status : PayoutStatus) : Silent ("sandbox.payout." ++ status.asStr) := by
  cases status <;> refine ⟨?_, ?_, ?_⟩ <;> decide

theorem silent_payment {next : PaymentStatus} (other : next ≠ .succeeded) :
    Silent ("payment." ++ next.asStr) := by
  cases next with
  | succeeded => exact absurd rfl other
  | _ => refine ⟨?_, ?_, ?_⟩ <;> decide

section Emit

variable {projectId : String} {db tx : Db} (now : DateTime) (owner kind resourceId : String)
  (data : Value) (simulated : Bool)

theorem feed_emit_own :
    (tx.emit now projectId kind resourceId data simulated).feed projectId =
      tx.feed projectId ++ [tx.newEvent now projectId kind resourceId data simulated] := by
  rw [feed, emit_events, List.filter_append]
  exact congrArg (tx.feed projectId ++ ·) (List.filter_cons_of_pos (decide_eq_true rfl))

theorem feed_emit_other {owner : String} (other : owner ≠ projectId) :
    (tx.emit now owner kind resourceId data simulated).feed projectId = tx.feed projectId :=
  filter_append_singleton_other (decide_eq_false other)

/-- The same rows and the same feed account for each other. -/
theorem Accounted.of_same (accounted : Accounted projectId db)
    (invoices : tx.invoices = db.invoices)
    (payments : tx.outgoingPayments = db.outgoingPayments)
    (deposits : tx.onchainTransactions = db.onchainTransactions)
    (events : tx.events = db.events) : Accounted projectId tx := by
  have feed : tx.feed projectId = db.feed projectId := by rw [Db.feed, events, Db.feed]
  refine ⟨?_, ?_, ?_, ?_⟩
  · rw [invoices, feed]
    exact accounted.received
  · rw [payments, feed]
    exact accounted.sent
  · rw [payments, feed]
    exact accounted.fees
  · rw [deposits, feed]
    exact accounted.deposits

/-- An event that carries nothing of what is counted. -/
theorem tallied_emit_silent {Row : Type} {weight : Row → ℤ} {amount : EventRecord → ℤ}
    {rows : List Row} (tallied : Tallied weight amount rows (tx.feed projectId))
    (nothing : amount (tx.newEvent now owner kind resourceId data simulated) = 0) :
    Tallied weight amount rows
      ((tx.emit now owner kind resourceId data simulated).feed projectId) := by
  by_cases own : owner = projectId
  · subst own
    rw [feed_emit_own]
    exact tallied.logged nothing
  · rw [feed_emit_other now kind resourceId data simulated own]
    exact tallied

theorem replicated_emit_silent {rows : List OnchainTransactionRecord}
    {view : OnchainTransactionRecord → Option Deposit}
    (replicated : Replicated Deposit.id depositIn view rows (tx.feed projectId))
    (nothing : kind ∉ [detectedKind, updatedKind, confirmedKind]) :
    Replicated Deposit.id depositIn view rows
      ((tx.emit now owner kind resourceId data simulated).feed projectId) := by
  by_cases own : owner = projectId
  · subst own
    rw [feed_emit_own]
    exact replicated.logged (if_neg nothing)
  · rw [feed_emit_other now kind resourceId data simulated own]
    exact replicated

theorem Accounted.emit (accounted : Accounted projectId tx) (silent : Silent kind) :
    Accounted projectId (tx.emit now owner kind resourceId data simulated) where
  received := tallied_emit_silent now owner kind resourceId data simulated accounted.received
    (if_neg silent.received)
  sent := tallied_emit_silent now owner kind resourceId data simulated accounted.sent
    (if_neg silent.sent)
  fees := tallied_emit_silent now owner kind resourceId data simulated accounted.fees
    (if_neg silent.sent)
  deposits := replicated_emit_silent now owner kind resourceId data simulated accounted.deposits
    silent.deposit

/-- **An event that carries what the row of its project gains.** -/
theorem tallied_emit {Row : Type} {weight : Row → ℤ} {amount : EventRecord → ℤ} {rows : List Row}
    {id : Row → String} (tallied : Tallied weight amount rows (db.feed projectId))
    (unique : KeyUnique id rows) {old : Row} (member : old ∈ rows) {set : Row → Row}
    (events : tx.events = db.events)
    (gain : owner = projectId → amount (tx.newEvent now owner kind resourceId data simulated) =
      weight (set old) - weight old)
    (other : owner ≠ projectId → weight (set old) = weight old) :
    Tallied weight amount (updateWhere (fun row => id row = id old) set rows)
      ((tx.emit now owner kind resourceId data simulated).feed projectId) := by
  have feed : tx.feed projectId = db.feed projectId := by rw [Db.feed, events, Db.feed]
  by_cases own : owner = projectId
  · have gained := gain own
    subst own
    rw [feed_emit_own, feed]
    exact tallied.updated unique member gained
  · rw [feed_emit_other now kind resourceId data simulated own, feed]
    refine tallied.rewritten fun row there same => ?_
    cases unique.eq_of_key there member same
    exact other own

end Emit

/-! ## One write -/

theorem amount_paid (invoice : InvoiceRecord) :
    (invoiceEventData invoice).amount "amount_received_msat" =
      invoice.amountReceivedMsat.getD 0 := by
  have read : (invoiceEventData invoice).field "amount_received_msat" =
      some (.ofOption .number invoice.amountReceivedMsat) := rfl
  rw [Value.amount, read]
  cases invoice.amountReceivedMsat with
  | none => rfl
  | some received => rfl

theorem amount_sent (payment : PaymentRecord) :
    (paymentEventData payment).amount "amount_msat" = payment.amountMsat := rfl

theorem amount_fee (payment : PaymentRecord) :
    (paymentEventData payment).amount "fee_msat" = payment.feeMsat.getD 0 := by
  have read : (paymentEventData payment).field "fee_msat" =
      some (.ofOption .number payment.feeMsat) := rfl
  rw [Value.amount, read]
  cases payment.feeMsat with
  | none => rfl
  | some fee => rfl

/-- The event of a deposit shows it. -/
theorem depositIn_transaction {kind : String} (seen : kind ∈ [detectedKind, updatedKind,
    confirmedKind]) (tx : Db) (now : DateTime) (owner address : String)
    (row : OnchainTransactionRecord) :
    depositIn (tx.newEvent now owner kind row.id (transactionEventData row address) false) =
      some row.deposit :=
  if_pos seen

section Writes

variable {projectId : String} {db : Db}

theorem Accounted.paid (accounted : Accounted projectId db)
    (unique : KeyUnique (fun row : InvoiceRow => row.id) db.invoices) (now : DateTime)
    (received : ℤ) {row : InvoiceRow} (member : row ∈ db.invoices)
    (stillOpen : row.status = .open_) :
    Accounted projectId (db.afterPaid now received row) := by
  have before : row.received projectId = 0 := if_neg fun both => by
    rw [stillOpen] at both
    cases both.2
  have other : "invoice.paid" ≠ "payment.succeeded" := by decide
  refine ⟨?_, ?_, ?_, ?_⟩
  · refine tallied_emit now row.projectId "invoice.paid" row.id _
      false accounted.received unique member rfl ?_ ?_
    · intro own
      have after : (paidRow now received row).received projectId = received := if_pos ⟨own, rfl⟩
      rw [before, after, Int.sub_zero]
      exact (if_pos rfl).trans (amount_paid _)
    · intro other
      rw [before]
      exact if_neg fun both => other both.1
  · exact tallied_emit_silent now row.projectId "invoice.paid"
      row.id _ false accounted.sent (if_neg other)
  · exact tallied_emit_silent now row.projectId "invoice.paid"
      row.id _ false accounted.fees (if_neg other)
  · exact replicated_emit_silent now row.projectId "invoice.paid"
      row.id _ false accounted.deposits (by decide)

theorem Accounted.expired (accounted : Accounted projectId db) (now : DateTime) :
    Accounted projectId (db.afterExpire now) := by
  have emitted : ∀ (rows : List InvoiceRow) (tx : Db), Accounted projectId tx →
      Accounted projectId (rows.foldl (emitExpired now) tx) := by
    intro rows
    induction rows with
    | nil => exact fun tx held => held
    | cons row rest ih =>
        intro tx held
        exact ih _ (held.emit now row.projectId _ row.id _ false silent_expired)
  refine emitted _ _ ⟨?_, accounted.sent, accounted.fees, accounted.deposits⟩
  refine accounted.received.rewritten fun row _ overdue => ?_
  have before : row.received projectId = 0 := if_neg fun both => by
    rw [overdue.1] at both
    cases both.2
  have after : (expiredRow now row).received projectId = 0 := if_neg fun both => by
    cases both.2
  rw [before, after]

theorem Accounted.moved (accounted : Accounted projectId db)
    (unique : KeyUnique (fun row : PaymentRow => row.id) db.outgoingPayments) (now : DateTime)
    (dedupeKey : Option String) {next : PaymentStatus} (fee : Option ℤ) (resolution : Resolution)
    {row : PaymentRow} (member : row ∈ db.outgoingPayments)
    (legal : row.status.canTransitionTo next = true) :
    Accounted projectId (db.afterMove now dedupeKey next fee resolution row) := by
  have unsettled : row.status ≠ .succeeded := by
    intro settled
    rw [settled] at legal
    cases next <;> cases legal
  have sentBefore : row.sent projectId = 0 := if_neg fun both => unsettled both.2
  have feesBefore : row.fees projectId = 0 := if_neg fun both => unsettled both.2
  rw [afterMove, claimOutcome_snd]
  by_cases settles : next = .succeeded
  · subst settles
    have other : "payment." ++ PaymentStatus.succeeded.asStr ≠ "invoice.paid" := by decide
    have noDeposit : "payment." ++ PaymentStatus.succeeded.asStr ∉
        [detectedKind, updatedKind, confirmedKind] := by decide
    refine ⟨?_, ?_, ?_, ?_⟩
    · exact tallied_emit_silent now row.projectId _ row.id _ false accounted.received
        (if_neg other)
    · refine tallied_emit now row.projectId _ row.id _ false accounted.sent unique member rfl ?_ ?_
      · intro own
        have after : (resolvedRow now .succeeded fee resolution row).sent projectId =
            row.amountMsat := if_pos ⟨own, rfl⟩
        rw [sentBefore, after, Int.sub_zero]
        exact if_pos rfl
      · intro other
        rw [sentBefore]
        exact if_neg fun both => other both.1
    · refine tallied_emit now row.projectId _ row.id _ false accounted.fees unique member rfl ?_ ?_
      · intro own
        have after : (resolvedRow now .succeeded fee resolution row).fees projectId =
            (fee.or row.feeMsat).getD 0 := if_pos ⟨own, rfl⟩
        rw [feesBefore, after, Int.sub_zero]
        exact (if_pos rfl).trans (amount_fee _)
      · intro other
        rw [feesBefore]
        exact if_neg fun both => other both.1
    · exact replicated_emit_silent now row.projectId _ row.id _ false accounted.deposits noDeposit
  · have unmoved : ∀ old ∈ db.outgoingPayments, old.id = row.id →
        (resolvedRow now next fee resolution old).sent projectId = old.sent projectId ∧
          (resolvedRow now next fee resolution old).fees projectId = old.fees projectId := by
      intro old there same
      cases unique.eq_of_key there member same
      rw [sentBefore, feesBefore]
      exact ⟨if_neg fun both => settles both.2, if_neg fun both => settles both.2⟩
    have rewritten : ∀ events, Accounted projectId { db with
        nodeEvents := events
        outgoingPayments := updateWhere (fun old => old.id = row.id)
          (resolvedRow now next fee resolution) db.outgoingPayments } := by
      intro events
      refine ⟨accounted.received, ?_, ?_, accounted.deposits⟩
      · exact accounted.sent.rewritten fun old there same => (unmoved old there same).1
      · exact accounted.fees.rewritten fun old there same => (unmoved old there same).2
    rw [emitMoved]
    split
    · exact (rewritten _).emit now _ _ _ _ false (silent_payment settles)
    · exact rewritten _

theorem shown_id {row : OnchainTransactionRecord} {seen : Deposit}
    (shown : row.shown projectId = some seen) : seen.id = row.id := by
  unfold OnchainTransactionRecord.shown at shown
  split at shown
  · cases shown
    rfl
  · cases shown

/-- An event of a deposit carries nothing else. -/
theorem depositKind_ne {kind : String} (seen : kind ∈ [detectedKind, updatedKind, confirmedKind]) :
    kind ≠ "invoice.paid" ∧ kind ≠ "payment.succeeded" := by
  refine ⟨?_, ?_⟩
  · rintro rfl
    exact absurd seen (by decide)
  · rintro rfl
    exact absurd seen (by decide)

/-- Only what is seen of the deposits changes with the event of one. -/
theorem Accounted.deposited (accounted : Accounted projectId db) {now : DateTime}
    {kind address : String} (seen : kind ∈ [detectedKind, updatedKind, confirmedKind])
    {rows : List OnchainTransactionRecord} {row : OnchainTransactionRecord}
    (replicated : Replicated Deposit.id depositIn (OnchainTransactionRecord.shown projectId) rows
      (({ db with onchainTransactions := rows }.emitTransaction now kind address row).feed
        projectId)) :
    Accounted projectId
      ({ db with onchainTransactions := rows }.emitTransaction now kind address row) := by
  obtain ⟨notPaid, notSent⟩ := depositKind_ne seen
  refine ⟨?_, ?_, ?_, replicated⟩
  · exact tallied_emit_silent now row.projectId kind
      row.id _ false accounted.received (if_neg notPaid)
  · exact tallied_emit_silent now row.projectId kind
      row.id _ false accounted.sent (if_neg notSent)
  · exact tallied_emit_silent now row.projectId kind
      row.id _ false accounted.fees (if_neg notSent)

theorem kind_mem (observation : Observation) (old : OnchainTransactionRecord) :
    observation.kind old ∈ [detectedKind, updatedKind, confirmedKind] := by
  unfold Observation.kind
  split
  · exact List.mem_cons_of_mem _ (List.mem_cons_of_mem _ List.mem_cons_self)
  · exact List.mem_cons_of_mem _ List.mem_cons_self

theorem Accounted.observed (accounted : Accounted projectId db) (keys : db.DepositKeys)
    {now : DateTime} {id : String} {observation : Observation} {after : Db}
    {answer : Except StorageError (Option OnchainTransactionRecord)}
    (observed : Observed now id observation db answer after) : Accounted projectId after := by
  have keyed : ∀ (row : OnchainTransactionRecord) (seen : Deposit),
      row.shown projectId = some seen → seen.id = row.id := fun _ _ shown => shown_id shown
  cases observed with
  | refused error missing bars => exact accounted
  | unchanged old found same => exact accounted
  | detected missing free =>
      have detected : detectedKind ∈ [detectedKind, updatedKind, confirmedKind] :=
        List.mem_cons_self
      refine accounted.deposited detected ?_
      by_cases own : observation.address.projectId = projectId
      · subst own
        rw [emitTransaction]
        refine (feed_emit_own now _ _ _ _).symm ▸ ?_
        refine accounted.deposits.inserted keyed (fun old there => free.idFree old there) ?_
        exact (depositIn_transaction detected _ now _ _ _).trans (if_pos rfl).symm
      · rw [emitTransaction]
        refine (feed_emit_other now _ _ _ _ own).symm ▸ ?_
        exact accounted.deposits.hidden (if_neg own)
  | updated old found differs =>
      refine accounted.deposited (kind_mem observation old) ?_
      obtain ⟨member, -⟩ := lookup_some found
      by_cases own : old.projectId = projectId
      · subst own
        rw [emitTransaction]
        refine (feed_emit_own now _ _ _ _).symm ▸ ?_
        refine accounted.deposits.updated keyed keys.ids member rfl ?_ ?_
        · exact (depositIn_transaction (kind_mem observation old) _ now _ _ _).trans
            (if_pos rfl).symm
        · exact iff_of_false (fun none_ => by cases (if_pos rfl).symm.trans none_)
            fun none_ => by cases (if_pos rfl).symm.trans none_
      · rw [emitTransaction]
        refine (feed_emit_other now _ _ _ _ own).symm ▸ ?_
        refine accounted.deposits.rewritten fun row there same => ?_
        cases keys.ids.eq_of_key there member same
        exact (if_neg own).trans (if_neg own).symm

theorem Accounted.performed (accounted : Accounted projectId db)
    (invoices : KeyUnique (fun row : InvoiceRow => row.id) db.invoices)
    (payments : KeyUnique (fun row : PaymentRow => row.id) db.outgoingPayments) {after : Db}
    (performed : Performed db after) : Accounted projectId after := by
  cases performed with
  | invoiceInserted now new fresh =>
      refine ⟨accounted.received.inserted (if_neg fun both => ?_), accounted.sent, accounted.fees,
        accounted.deposits⟩
      cases both.2
  | invoicePaid now dedupeKey kind payload received row member stillOpen =>
      have claimed : Accounted projectId (db.withNodeEvent now dedupeKey kind payload) :=
        accounted.of_same rfl rfl rfl rfl
      exact claimed.paid invoices now received member stillOpen
  | invoicesExpired now => exact accounted.expired now
  | paymentBegun now new keyFree idFree =>
      refine ⟨accounted.received, accounted.sent.inserted (if_neg fun both => ?_),
        accounted.fees.inserted (if_neg fun both => ?_), accounted.deposits⟩
      · cases both.2
      · cases both.2
  | paymentMoved now dedupeKey next fee resolution row found legal =>
      exact accounted.moved payments now dedupeKey fee resolution (lookup_some found).1 legal
  | payoutReserved now request quote balances fresh =>
      exact Accounted.emit now _ _ _ _ true (accounted.of_same rfl rfl rfl rfl)
        (silent_payout .reserved)
  | payoutAdvanced now current next balances found legal =>
      exact Accounted.emit now _ _ _ _ true (accounted.of_same rfl rfl rfl rfl)
        (silent_payout next)
  | endpointTested now owner id data =>
      exact accounted.emit now owner _ id data false silent_test
  | _ => exact accounted.of_same rfl rfl rfl rfl

end Writes

/-! ## Over runs -/

/-- The keys of the rows and the order of the events, and the accounts of every project. -/
structure Books (db : Db) : Prop where
  invoices : KeyUnique (fun row : InvoiceRow => row.id) db.invoices
  payments : PaymentKeys db.outgoingPayments
  deposits : db.DepositKeys
  order : EventOrder db.nextSeq db.events
  accounted : ∀ projectId, Accounted projectId db

theorem books_empty : Books {} := by
  refine ⟨.nil, ⟨.nil, .nil⟩, ⟨.nil, .nil⟩, ⟨List.Pairwise.nil, Nat.one_pos, ?_⟩, ?_⟩
  · rintro _ ⟨⟩
  · exact fun projectId => ⟨.nil, .nil, .nil, .nil⟩

theorem Books.performed {db after : Db} (books : Books db) (performed : Performed db after) :
    Books after := by
  refine ⟨performed.invoices.ids books.invoices, performed.payments.keys books.payments, ?_,
    books.order.performed performed, fun projectId =>
      (books.accounted projectId).performed books.invoices books.payments.ids performed⟩
  have deposits := performed.onchain.2
  refine ⟨?_, ?_⟩
  · rw [deposits]
    exact books.deposits.ids
  · rw [deposits]
    exact books.deposits.outputs

theorem Books.observed {db after : Db} (books : Books db) {now : DateTime} {id : String}
    {observation : Observation} {answer : Except StorageError (Option OnchainTransactionRecord)}
    (observed : Observed now id observation db answer after) : Books after := by
  have deposits := books.deposits.observed observed
  have accounted := fun projectId => (books.accounted projectId).observed books.deposits observed
  cases observed with
  | refused error missing bars => exact books
  | unchanged old found same => exact books
  | detected missing free =>
      exact ⟨books.invoices, books.payments, deposits, books.order.append rfl, accounted⟩
  | updated old found differs =>
      exact ⟨books.invoices, books.payments, deposits, books.order.append rfl, accounted⟩

/-- **Every write keeps the books.** -/
theorem Books.write {db : Db} (books : Books db) (write : DbWrite) : Books (db.write write) := by
  have delivered : (∃ rows, db.write write = { db with webhookDeliveries := rows }) →
      Books (db.write write) := by
    rintro ⟨rows, same⟩
    rw [same]
    exact ⟨books.invoices, books.payments, ⟨books.deposits.ids, books.deposits.outputs⟩,
      books.order, fun projectId => (books.accounted projectId).of_same rfl rfl rfl rfl⟩
  cases write with
  | call call => exact books.performed (perform_performed call db)
  | recordObservation now id observation =>
      exact books.observed (recordObservation_observed now id observation db)
  | createAddress now id owner address label requiredConfirmations =>
      rcases createAddress_cases now id owner address label requiredConfirmations db with
        same | ⟨fresh, made⟩
      · rw [Db.write, same]
        exact books
      · rw [Db.write, made]
        exact ⟨books.invoices, books.payments, ⟨books.deposits.ids, books.deposits.outputs⟩,
          books.order, fun projectId => (books.accounted projectId).of_same rfl rfl rfl rfl⟩
  | claimDueDeliveries now limit leaseSecs locked => exact delivered (write_deliveries rfl)
  | recordDelivery now id outcome => exact delivered (write_deliveries rfl)
  | replayDelivery now projectId id => exact delivered (write_deliveries rfl)

theorem books_of_reachable {db : Db}
    (reached : database.ReachableBy (fun db write => write.Admitted db) db) : Books db := by
  refine reached.invariant Books ?_ ?_
  · rintro _ rfl
    exact books_empty
  · intro db write after _ books _ step
    cases step
    exact books.write write

/-! ## The sums of the rows -/

theorem sum_deposits (wanted : OnchainStatus → Prop) [DecidablePred wanted]
    (named : String → Prop) [DecidablePred named]
    (names : ∀ status : OnchainStatus, named status.asStr ↔ wanted status) (projectId : String)
    (rows : List OnchainTransactionRecord) :
    sumOf (fun row => some row.amountSat)
        (rows.filter fun row => row.projectId = projectId ∧ wanted row.status) =
      (((rows.filterMap (OnchainTransactionRecord.shown projectId)).filter fun deposit =>
        named deposit.status).map Deposit.amountSat).sum := by
  induction rows with
  | nil => rfl
  | cons row rest ih =>
      by_cases own : row.projectId = projectId
      · have shown : row.shown projectId = some row.deposit := if_pos own
        rw [List.filterMap_cons_some shown]
        by_cases counted : wanted row.status
        · have called : named row.deposit.status := (names row.status).mpr counted
          simp only [List.filter_cons, own, counted, called, and_self, decide_true, if_true,
            sumOf_cons, List.map_cons, List.sum_cons, ih]
          rfl
        · have uncalled : ¬ named row.deposit.status := fun named => counted
            ((names row.status).mp named)
          simp only [List.filter_cons, counted, uncalled, and_false, decide_false,
            Bool.false_eq_true, if_false, ih]
      · have hidden : row.shown projectId = none := if_neg own
        rw [List.filterMap_cons_none hidden, ← ih]
        simp only [List.filter_cons, own, false_and, decide_false, Bool.false_eq_true, if_false]

theorem confirmed_iff (status : OnchainStatus) :
    status.asStr = "confirmed" ↔ status = .confirmed := by
  cases status <;> decide

/-- **The totals are what a client adds up from the feed.** -/
theorem Books.totals {db : Db} (books : Books db) {projectId : String} {totals : Totals}
    (queried : db.projectTotals projectId = .ok totals) :
    tallyOf (db.feed projectId) = ⟨totals.lightningReceivedMsat, totals.lightningSentMsat,
      totals.lightningFeesMsat, totals.onchainConfirmedSat, totals.onchainUnconfirmedSat⟩ := by
  have accounted := books.accounted projectId
  have deposits : depositsOf (db.feed projectId) =
      db.onchainTransactions.filterMap (OnchainTransactionRecord.shown projectId) :=
    accounted.deposits
  obtain ⟨received, receivedSum, queried⟩ := Except.exists_of_bind_eq_ok queried
  obtain ⟨sent, sentSum, queried⟩ := Except.exists_of_bind_eq_ok queried
  obtain ⟨fees, feesSum, queried⟩ := Except.exists_of_bind_eq_ok queried
  obtain ⟨inFlight, -, queried⟩ := Except.exists_of_bind_eq_ok queried
  obtain ⟨confirmed, confirmedSum, queried⟩ := Except.exists_of_bind_eq_ok queried
  obtain ⟨unconfirmed, unconfirmedSum, queried⟩ := Except.exists_of_bind_eq_ok queried
  cases queried
  have receivedEq : ((db.feed projectId).map receivedIn).sum = received := by
    rw [bigintSum_eq_ok receivedSum, sumOf_filter]
    exact accounted.received
  have sentEq : ((db.feed projectId).map sentIn).sum = sent := by
    rw [bigintSum_eq_ok sentSum, sumOf_filter]
    exact accounted.sent
  have feesEq : ((db.feed projectId).map feesIn).sum = fees := by
    rw [bigintSum_eq_ok feesSum, sumOf_filter]
    exact accounted.fees
  have confirmedEq : (tallyOf (db.feed projectId)).confirmedSat = confirmed := by
    have counted := sum_deposits (· = .confirmed) (· = "confirmed") confirmed_iff projectId
      db.onchainTransactions
    rw [← deposits] at counted
    exact counted.symm.trans (bigintSum_eq_ok confirmedSum).symm
  have unconfirmedEq : (tallyOf (db.feed projectId)).unconfirmedSat = unconfirmed := by
    have counted := sum_deposits (· ≠ .confirmed) (· ≠ "confirmed")
      (fun status => not_congr (confirmed_iff status)) projectId db.onchainTransactions
    rw [← deposits] at counted
    exact counted.symm.trans (bigintSum_eq_ok unconfirmedSum).symm
  rw [← receivedEq, ← sentEq, ← feesEq, ← confirmedEq, ← unconfirmedEq]
  rfl

/-! ## The pages -/

/-- The events of the project after a number. -/
def unreadAfter (projectId : String) (after : Option ℤ) (db : Db) : List EventRecord :=
  (db.feed projectId).filter fun event => after.getD 0 < event.seq

theorem unreadAfter_start {nextSeq : ℕ} {db : Db} (order : EventOrder nextSeq db.events)
    (projectId : String) : db.unreadAfter projectId none = db.feed projectId := by
  refine List.filter_eq_self.mpr fun event member => ?_
  have positive := (order.numbered event (List.mem_of_mem_filter member)).1
  exact decide_eq_true (Int.natCast_pos.mpr positive)

theorem unreadAfter_ascending {nextSeq : ℕ} {projectId : String} {after : Option ℤ} {db : Db}
    (order : EventOrder nextSeq db.events) :
    Ascending (fun event : EventRecord => event.seq) (db.unreadAfter projectId after) :=
  List.Pairwise.filter _ (List.Pairwise.filter _ order.ascending)

theorem listEvents_eq_take {nextSeq : ℕ} {projectId : String} {after : Option ℤ} {db : Db}
    (order : EventOrder nextSeq db.events) (limit : ℕ) :
    db.listEvents projectId after none limit = (db.unreadAfter projectId after).take limit := by
  have same : (db.events.filter fun event => event.projectId = projectId ∧
      after.getD 0 < event.seq ∧ ((none : Option String) = none ∨ none = some event.kind)) =
        db.unreadAfter projectId after := by
    rw [unreadAfter, feed, List.filter_filter]
    refine List.filter_congr fun event _ => ?_
    simp only [true_or, and_true, Bool.decide_and, Bool.and_comm]
  rw [listEvents, same]
  exact (unreadAfter_ascending order).pageBy_eq_take limit

/-- What is left after the last event of a page. -/
theorem unreadAfter_drop {nextSeq : ℕ} {projectId : String} {after : Option ℤ} {db : Db}
    (order : EventOrder nextSeq db.events) {limit : ℕ} {last : EventRecord}
    (shown : ((db.unreadAfter projectId after).take limit).getLast? = some last) :
    db.unreadAfter projectId (some last.seq) = (db.unreadAfter projectId after).drop limit := by
  have passed := of_decide_eq_true (List.mem_filter.mp
    (List.mem_of_mem_take (List.mem_of_getLast? shown))).2
  rw [(unreadAfter_ascending order).drop_eq_filter shown, unreadAfter, unreadAfter,
    List.filter_filter]
  refine List.filter_congr fun event _ => ?_
  have later : last.seq < event.seq → after.getD 0 < event.seq := by
    intro above
    omega
  by_cases above : last.seq < event.seq
  · simp only [Option.getD_some, Int.ofNat_lt, above, later above, decide_true, Bool.and_self]
  · simp only [Option.getD_some, Int.ofNat_lt, above, decide_false, Bool.false_and]

end Db

theorem Page.fromQuery_positive {limit : Option ℤ} {page : Page}
    (valid : Page.fromQuery limit = .ok page) : 0 < page.limit := by
  unfold fromQuery at valid
  split at valid
  · cases valid
    decide
  · split at valid
    · cases valid
      rename_i given within
      exact Int.pos_iff_toNat_pos.mp (by omega)
    · cases valid

/-- **Page after page a client reads every event after the number, once and in order.** -/
theorem readFeed_eq {nextSeq : ℕ} {db : Db} (order : Db.EventOrder nextSeq db.events)
    (projectId : String) {limit : Option ℤ} {page : Page}
    (valid : Page.fromQuery limit = .ok page) {requests : ℕ} {after : Option ℤ}
    (enough : (db.unreadAfter projectId after).length < requests) :
    readFeed db projectId limit requests after = .ok (db.unreadAfter projectId after) := by
  have positive := Page.fromQuery_positive valid
  induction requests generalizing after with
  | zero => exact absurd enough (Nat.not_lt_zero _)
  | succ requests ih =>
      have rows : db.listEvents projectId after none page.fetch =
          (db.unreadAfter projectId after).take (page.limit + 1) := Db.listEvents_eq_take order _
      have data : ((db.unreadAfter projectId after).take (page.limit + 1)).take page.limit =
          (db.unreadAfter projectId after).take page.limit := by
        rw [List.take_take, Nat.min_eq_left (Nat.le_succ _)]
      rw [readFeed, getEvents, valid]
      simp only [bind, Except.bind, rows, data]
      by_cases more : page.limit < (db.unreadAfter projectId after).length
      · have longer : page.limit <
            ((db.unreadAfter projectId after).take (page.limit + 1)).length := by
          rw [List.length_take]
          omega
        obtain ⟨last, shown⟩ : ∃ last,
            ((db.unreadAfter projectId after).take page.limit).getLast? = some last := by
          refine Option.ne_none_iff_exists'.mp fun none_ => ?_
          have length := congrArg List.length (List.getLast?_eq_none_iff.mp none_)
          rw [List.length_take, List.length_nil] at length
          omega
        have left := Db.unreadAfter_drop order shown
        have fewer : (db.unreadAfter projectId (some last.seq)).length < requests := by
          rw [left, List.length_drop]
          omega
        simp only [longer, if_true, shown, Option.map_some]
        rw [ih fewer]
        simp only [left, List.take_append_drop]
      · have short : ¬ page.limit <
            ((db.unreadAfter projectId after).take (page.limit + 1)).length := by
          rw [List.length_take]
          omega
        simp only [short, if_false]
        rw [List.take_of_length_le (by omega)]

/-! ## The balance -/

/-- **The feed accounts for the balance.** Whatever ran before, a client that reads the feed of
a project from the start, in pages of any size, and adds up what the events carry has the
amounts of `GET /v1/balances`: what its invoices received, what its payments sent and paid in
fees, and its deposits, confirmed and not. -/
theorem feed_accounts_for_balance {db : Db}
    (reached : database.ReachableBy (fun db write => write.Admitted db) db) (network : Network)
    (collation : Collation) (projectId : String) {limit : Option ℤ} {page : Page}
    (valid : Page.fromQuery limit = .ok page) {body : Value}
    (answered : balances network collation db projectId = .ok body) {requests : ℕ}
    (enough : db.events.length < requests) :
    ∃ events ledger, readFeed db projectId limit requests none = .ok events ∧
      body.field "ledger" = some ledger ∧
      tallyOf events = ⟨ledger.amount "lightning_received_msat",
        ledger.amount "lightning_sent_msat", ledger.amount "lightning_fees_msat",
        ledger.amount "onchain_confirmed_sat", ledger.amount "onchain_unconfirmed_sat"⟩ := by
  have books := Db.books_of_reachable reached
  obtain ⟨totals, queried, answered⟩ := Except.exists_of_bind_eq_ok answered
  cases answered
  have start := Db.unreadAfter_start books.order projectId
  have fits : (db.unreadAfter projectId none).length < requests := by
    rw [start, Db.feed]
    exact (List.length_filter_le _ _).trans_lt enough
  refine ⟨db.feed projectId, _, ?_, rfl, ?_⟩
  · rw [readFeed_eq books.order projectId valid fits, start]
  · exact books.totals (Except.eq_ok_of_mapError_eq_ok queried)

/-- The address that both deposits go to. -/
def accountAddress : AddressRecord := ⟨"adr_1", "prj_1", "bcrt1q", "", 1, 0⟩

/-- An invoice is paid, a payment succeeds, and the first of two deposits is confirmed. -/
def settledWrites : List DbWrite := [
  .call (.insertInvoice 1 ⟨"inv_1", "prj_1", none, 2000, "", "lnbcrt1", "hash_1", 9, .null⟩),
  .call (.markInvoicePaid 2 "received:hash_1" "hash_1" 2100),
  .call (.beginPayment 3 ⟨"pay_1", "prj_1", "key", [1], "lnbcrt2", "hash_2", 5000, .null⟩),
  .call (.transitionPayment 4 none "pay_1" .pending {}),
  .call (.transitionPayment 5 none "pay_1" .succeeded ⟨some 40, none, none⟩),
  .createAddress 0 "adr_1" "prj_1" "bcrt1q" "" 1,
  .recordObservation 6 "tx_1" ⟨accountAddress, "aa", 0, 70000, none, 0⟩,
  .recordObservation 7 "tx_2" ⟨accountAddress, "bb", 1, 900, none, 0⟩,
  .recordObservation 8 "tx_3" ⟨accountAddress, "aa", 0, 70000, some 5, 1⟩]

/-- The deposits go to the address that was created before. -/
theorem settledWrites_admitted :
    database.StepsMeet (fun db write => write.Admitted db) {} settledWrites := by
  refine ⟨trivial, fun one done => ⟨trivial, fun two done' => ?_⟩⟩
  cases done
  cases done'
  refine ⟨trivial, fun one done => ⟨trivial, fun two done' => ⟨trivial, fun three done'' => ?_⟩⟩⟩
  cases done
  cases done'
  cases done''
  refine ⟨trivial, fun one done => ?_⟩
  cases done
  have stored : accountAddress ∈ [accountAddress] := List.mem_singleton_self _
  refine ⟨stored, fun one done => ?_⟩
  cases done
  refine ⟨stored, fun one done => ?_⟩
  cases done
  exact ⟨stored, fun _ _ => trivial⟩

/-- The client reads the feed two events at a time. -/
theorem feed_accounts_for_balance_settled :
    ∃ db body events ledger,
      database.run {} settledWrites = some db ∧
      balances .regtest byteOrder db "prj_1" = .ok body ∧
      readFeed db "prj_1" (some 2) 6 none = .ok events ∧ body.field "ledger" = some ledger ∧
      tallyOf events = ⟨ledger.amount "lightning_received_msat",
        ledger.amount "lightning_sent_msat", ledger.amount "lightning_fees_msat",
        ledger.amount "onchain_confirmed_sat", ledger.amount "onchain_unconfirmed_sat"⟩ ∧
      tallyOf events = ⟨2100, 5000, 40, 70000, 900⟩ := by
  have observed : (database.run {} settledWrites).map (fun db =>
      ((readFeed db "prj_1" (some 2) 6 none).toOption.map tallyOf, db.events.length,
        (balances .regtest byteOrder db "prj_1").toOption.isSome)) =
      some (some ⟨2100, 5000, 40, 70000, 900⟩, 5, true) := by rfl
  obtain ⟨db, ran, seen⟩ := Option.map_eq_some_iff.mp observed
  obtain ⟨read, counted⟩ := Prod.mk.inj seen
  obtain ⟨length, answered⟩ := Prod.mk.inj counted
  have reached := Machine.reachableBy_of_run (.start rfl) settledWrites_admitted ran
  have valid : Page.fromQuery (some 2) = .ok ⟨2⟩ := rfl
  have enough : db.events.length < 6 := length ▸ by decide
  cases answer : balances .regtest byteOrder db "prj_1" with
  | error error =>
      rw [answer] at answered
      cases answered
  | ok body =>
      obtain ⟨events, ledger, walked, field, same⟩ := feed_accounts_for_balance reached .regtest
        byteOrder "prj_1" valid answer enough
      rw [walked] at read
      exact ⟨db, body, events, ledger, ran, answer, walked, field, same,
        Option.some.inj read⟩

end Safrod

import Safrod.Storage.Events
import Safrod.Storage.Payments

/-!
# Simulated quotes, payouts and balances

`reservePayout` spends a quote: it answers a replay of its idempotency key with
the payout that is there, and otherwise takes the quote (`takeQuote`), checks the
balance (`checkBalance`) and writes the reservation (`writeReservation`), the
three statements between which the source takes its row locks. `advancePayout`
moves a payout and credits the source amount back when it fails.

`Reserved` and `Advanced` list the exits of the two.
-/

set_option autoImplicit false

namespace Safrod

open Table

structure NewQuote where
  projectId : String
  sourceCurrency : String
  targetCurrency : String
  sourceMinor : ℕ
  targetMinor : ℕ
  ratePpm : ℕ
  btcAmountMsat : ℕ
  expiresAt : DateTime

/-- The arguments of `reserve_payout`, with the identifier it draws. -/
structure Reservation where
  payoutId : String
  projectId : String
  quoteId : String
  idempotencyKey : String
  scenario : String
  settlementBolt11 : Option String

def payoutEventData (payout : PayoutRecord) : Value :=
  .object [
    ("payout_id", .string payout.id),
    ("quote_id", .string payout.quoteId),
    ("status", .string payout.status.asStr),
    ("scenario", .string payout.scenario),
    ("payment_id", .ofOption .string payout.paymentId),
    ("simulated_fiat", .bool true)]

namespace Db

/-! ## Balances -/

/-- The primary key of `sandbox_balances`. -/
def balanceKey (row : BalanceRow) : String × String := (row.projectId, row.currency)

/-- `coalesce((select minor from sandbox_balances …), 0)`. -/
def balanceOf (db : Db) (projectId currency : String) : ℤ :=
  match lookup balanceKey (projectId, currency) db.sandboxBalances with
  | none => 0
  | some row => row.minor

/-- A sum of two `bigint` values, where it is one. -/
def addBigint (left right : ℤ) : Except StorageError ℤ :=
  if left + right ≤ i64Max ∧ -(i64Max : ℤ) - 1 ≤ left + right then .ok (left + right)
  else .error (.database "bigint out of range")

theorem addBigint_eq_ok {left right sum : ℤ} (added : addBigint left right = .ok sum) :
    sum = left + right := by
  unfold addBigint at added
  split at added
  · cases added
    rfl
  · cases added

def setMinor (minor : ℤ) (row : BalanceRow) : BalanceRow := { row with minor := minor }

/-- The table of balances after one has a new value. -/
def withMinor (projectId currency : String) (minor : ℤ) (tx : Db) : Db :=
  { tx with
    sandboxBalances := updateWhere (fun row => balanceKey row = (projectId, currency))
      (setMinor minor) tx.sandboxBalances }

/-- `insert into sandbox_balances … on conflict do update set minor = minor + $3`. -/
def upsertBalance (projectId currency : String) (minor : ℤ) (tx : Db) : Except StorageError Db :=
  match lookup balanceKey (projectId, currency) tx.sandboxBalances with
  | none => .ok { tx with sandboxBalances := tx.sandboxBalances ++ [⟨projectId, currency, minor⟩] }
  | some row => (addBigint row.minor minor).map fun sum => tx.withMinor projectId currency sum

def creditSandboxBalance (projectId currency : String) (minor : ℕ) :
    Db → Except StorageError Unit × Db :=
  transaction fun tx => do
    let amount ← toI64 minor
    let tx ← upsertBalance projectId currency amount tx
    return .commit () tx

/-! ## Quotes -/

def findQuote (db : Db) (id : String) : Option QuoteRecord :=
  lookup (fun row : QuoteRecord => row.id) id db.sandboxQuotes

/-- The row the insert adds. -/
def quoteRow (now : DateTime) (id : String) (new : NewQuote) : QuoteRecord where
  id := id
  projectId := new.projectId
  sourceCurrency := new.sourceCurrency
  targetCurrency := new.targetCurrency
  sourceMinor := new.sourceMinor
  targetMinor := new.targetMinor
  ratePpm := new.ratePpm
  btcAmountMsat := new.btcAmountMsat
  status := .open_
  expiresAt := new.expiresAt
  createdAt := now

def insertQuoteRow (row : QuoteRecord) (tx : Db) : Except StorageError Db :=
  if row.sourceMinor ≤ 0 then .error (.database "sandbox_quotes_source_minor_check")
  else if row.targetMinor ≤ 0 then .error (.database "sandbox_quotes_target_minor_check")
  else if row.btcAmountMsat ≤ 0 then .error (.database "sandbox_quotes_btc_amount_msat_check")
  else if (tx.findQuote row.id).isSome then .error .conflict
  else .ok { tx with sandboxQuotes := tx.sandboxQuotes ++ [row] }

def insertQuote (now : DateTime) (id : String) (new : NewQuote) :
    Db → Except StorageError QuoteRecord × Db :=
  transaction fun tx => do
    let _ ← toI64 new.sourceMinor
    let _ ← toI64 new.targetMinor
    let _ ← toI64 new.ratePpm
    let _ ← toI64 new.btcAmountMsat
    let tx ← insertQuoteRow (quoteRow now id new) tx
    return .commit (quoteRow now id new) tx

/-- `where project_id = $1 and id = $2`. -/
def getQuote (db : Db) (projectId id : String) : Except StorageError QuoteRecord :=
  fetchOne (db.sandboxQuotes.find? fun row => row.projectId = projectId ∧ row.id = id)

/-! ## `reserve_payout` -/

def findPayout (db : Db) (id : String) : Option PayoutRecord :=
  lookup (fun row : PayoutRecord => row.id) id db.sandboxPayouts

/-- `where project_id = $1 and id = $2`. -/
def getPayout (db : Db) (projectId id : String) : Except StorageError PayoutRecord :=
  fetchOne (db.sandboxPayouts.find? fun row => row.projectId = projectId ∧ row.id = id)

/-- `where project_id = $1 and idempotency_key = $2`. -/
def findPayoutByKey (db : Db) (projectId idempotencyKey : String) : Option PayoutRecord :=
  lookup (fun row : PayoutRecord => (row.projectId, row.idempotencyKey)) (projectId, idempotencyKey)
    db.sandboxPayouts

/-- `where project_id = $1 and id = $2 for update`, and the staleness check. -/
def takeQuote (clock : DateTime) (request : Reservation) (tx : Db) :
    Except StorageError QuoteRecord := do
  let quote ← fetchOne
    (tx.sandboxQuotes.find? fun row => row.projectId = request.projectId ∧ row.id = request.quoteId)
  if quote.status ≠ .open_ ∨ quote.expiresAt < clock then
    .error (.illegalTransition "stale_quote" "reserved")
  else
    return quote

def checkBalance (request : Reservation) (quote : QuoteRecord) (tx : Db) :
    Except StorageError Unit :=
  if tx.balanceOf request.projectId quote.sourceCurrency < quote.sourceMinor then
    .error .insufficientBalance
  else
    .ok ()

/-- The payout the insert adds. -/
def reservedRow (now : DateTime) (request : Reservation) : PayoutRecord where
  id := request.payoutId
  projectId := request.projectId
  quoteId := request.quoteId
  idempotencyKey := request.idempotencyKey
  scenario := request.scenario
  settlementBolt11 := request.settlementBolt11
  status := .reserved
  paymentId := none
  createdAt := now
  updatedAt := now

/-- Two payouts that a unique index keeps apart. -/
def PayoutClash (row old : PayoutRecord) : Prop :=
  old.id = row.id ∨ old.quoteId = row.quoteId ∨
    (old.projectId = row.projectId ∧ old.idempotencyKey = row.idempotencyKey)

instance (row old : PayoutRecord) : Decidable (PayoutClash row old) :=
  inferInstanceAs (Decidable (_ ∨ _ ∨ _))

/-- `scenario in ('success', 'failure', 'timeout')`. -/
def scenarios : List String := ["success", "failure", "timeout"]

def insertPayout (row : PayoutRecord) (tx : Db) : Except StorageError Db :=
  if row.scenario ∉ scenarios then .error (.database "sandbox_payouts_scenario_check")
  else if ∃ old ∈ tx.sandboxPayouts, PayoutClash row old then .error .conflict
  else .ok { tx with sandboxPayouts := tx.sandboxPayouts ++ [row] }

def usedRow (row : QuoteRecord) : QuoteRecord := { row with status := .used }

def withUsedQuote (quote : QuoteRecord) (tx : Db) : Db :=
  { tx with sandboxQuotes := updateWhere (fun row => row.id = quote.id) usedRow tx.sandboxQuotes }

/-- The event of a payout that entered its status. -/
def emitPayout (now : DateTime) (payout : PayoutRecord) (tx : Db) : Db :=
  tx.emit now payout.projectId ("sandbox.payout." ++ payout.status.asStr) payout.id
    (payoutEventData payout) true

/-- The writes of a reservation, once the quote and the balance are locked. -/
def writeReservation (now : DateTime) (request : Reservation) (quote : QuoteRecord) (tx : Db) :
    Except StorageError (PayoutRecord × Db) := do
  let tx := tx.withUsedQuote quote
  let tx ← upsertBalance request.projectId quote.sourceCurrency (-quote.sourceMinor) tx
  let payout := reservedRow now request
  let tx ← insertPayout payout tx
  return (payout, tx.emitPayout now payout)

def reservePayout (now clock : DateTime) (request : Reservation) :
    Db → Except StorageError (PayoutRecord × Bool) × Db :=
  transaction fun tx =>
    match tx.findPayoutByKey request.projectId request.idempotencyKey with
    | some prior =>
        if prior.quoteId ≠ request.quoteId ∨ prior.scenario ≠ request.scenario then
          .error .idempotencyMismatch
        else
          .ok (.drop (prior, false))
    | none => do
        let quote ← takeQuote clock request tx
        checkBalance request quote tx
        let (payout, tx) ← writeReservation now request quote tx
        return .commit (payout, true) tx

/-- The answer from a payout that is stored under the key. -/
def replayPayout (request : Reservation) (prior : PayoutRecord) :
    Except StorageError PayoutRecord :=
  if prior.quoteId ≠ request.quoteId ∨ prior.scenario ≠ request.scenario then
    .error .idempotencyMismatch
  else .ok prior

/-- `reserve_payout` from the lock of the quote on. -/
def reserveQuote (now clock : DateTime) (request : Reservation) :
    Db → Except StorageError PayoutRecord × Db :=
  transaction fun tx => do
    let quote ← takeQuote clock request tx
    checkBalance request quote tx
    let (payout, tx) ← writeReservation now request quote tx
    return .commit payout tx

/-- A reservation looks for a prior payout first, without a lock. -/
theorem reservePayout_eq (now clock : DateTime) (request : Reservation) (db : Db) :
    reservePayout now clock request db =
      match db.findPayoutByKey request.projectId request.idempotencyKey with
      | some prior => ((replayPayout request prior).map (·, false), db)
      | none =>
          ((reserveQuote now clock request db).1.map (·, true),
            (reserveQuote now clock request db).2) := by
  unfold reservePayout reserveQuote
  cases prior : db.findPayoutByKey request.projectId request.idempotencyKey with
  | some prior' =>
      by_cases differs : prior'.quoteId ≠ request.quoteId ∨ prior'.scenario ≠ request.scenario
      · simp only [transaction, prior, replayPayout, if_pos differs, Except.map]
      · simp only [transaction, prior, replayPayout, if_neg differs, Except.map]
  | none =>
      simp only [transaction, prior]
      cases takeQuote clock request db with
      | error error => rfl
      | ok quote =>
          simp only [bind, Except.bind]
          cases checkBalance request quote db with
          | error error => rfl
          | ok checked =>
              cases writeReservation now request quote db with
              | error error => rfl
              | ok written => rfl

/-! ## `advance_payout` -/

def advancedRow (now : DateTime) (next : PayoutStatus) (row : PayoutRecord) : PayoutRecord :=
  { row with status := next, updatedAt := now }

def withAdvanced (now : DateTime) (payoutId : String) (next : PayoutStatus) (tx : Db) : Db :=
  { tx with
    sandboxPayouts := updateWhere (fun row => row.id = payoutId) (advancedRow now next)
      tx.sandboxPayouts }

/-- `update sandbox_balances b set minor = b.minor + q.source_minor from sandbox_quotes q …`. -/
def refundQuote (quoteId : String) (tx : Db) : Except StorageError Db :=
  match tx.findQuote quoteId with
  | none => .ok tx
  | some quote =>
      match lookup balanceKey (quote.projectId, quote.sourceCurrency) tx.sandboxBalances with
      | none => .ok tx
      | some row =>
          (addBigint row.minor quote.sourceMinor).map fun sum =>
            tx.withMinor quote.projectId quote.sourceCurrency sum

/-- The writes of an advance, once the payout is locked. -/
def writeAdvance (now : DateTime) (current : PayoutRecord) (next : PayoutStatus) (tx : Db) :
    Except StorageError (PayoutRecord × Db) := do
  let updated := advancedRow now next current
  let tx := tx.withAdvanced now current.id next
  let tx ← (if next = .failed then refundQuote updated.quoteId tx else .ok tx)
  return (updated, tx.emitPayout now updated)

def advancePayout (now : DateTime) (payoutId : String) (next : PayoutStatus) :
    Db → Except StorageError (PayoutRecord × Bool) × Db :=
  transaction fun tx => do
    let current ← fetchOne (tx.findPayout payoutId)
    if current.status = next then
      return .drop (current, false)
    else if current.status.canTransitionTo next = false then
      .error (.illegalTransition current.status.asStr next.asStr)
    else do
      let (updated, tx) ← writeAdvance now current next tx
      return .commit (updated, true) tx

/-! ## `attach_payment_to_payout` -/

def attachedRow (now : DateTime) (paymentId : String) (row : PayoutRecord) : PayoutRecord :=
  { row with paymentId := some paymentId, updatedAt := now }

/-- The payment is one of the table by a foreign key. -/
def attachPaymentToPayout (now : DateTime) (payoutId paymentId : String) :
    Db → Except StorageError Unit × Db :=
  transaction fun tx =>
    if (tx.findPayout payoutId).isSome ∧ (tx.findPayment paymentId).isNone then
      .error (.database "sandbox_payouts_payment_id_fkey")
    else
      .ok (.commit () { tx with
        sandboxPayouts := updateWhere (fun row => row.id = payoutId) (attachedRow now paymentId)
          tx.sandboxPayouts })

/-! ## What the calls do -/

/-- An upsert writes the table of balances only. -/
theorem upsertBalance_eq {projectId currency : String} {minor : ℤ} {tx after : Db}
    (written : upsertBalance projectId currency minor tx = .ok after) :
    after = { tx with sandboxBalances := after.sandboxBalances } := by
  unfold upsertBalance at written
  split at written
  · cases written
    rfl
  · obtain ⟨sum, -, rfl⟩ := Except.exists_of_map_eq_ok written
    rfl

/-- A refund writes the table of balances only. -/
theorem refundQuote_eq {quoteId : String} {tx after : Db}
    (written : refundQuote quoteId tx = .ok after) :
    after = { tx with sandboxBalances := after.sandboxBalances } := by
  unfold refundQuote at written
  split at written
  · cases written
    rfl
  · split at written
    · cases written
      rfl
    · obtain ⟨sum, -, rfl⟩ := Except.exists_of_map_eq_ok written
      rfl

/-- A credit that fails changes nothing, and one that succeeds is an upsert. -/
theorem creditSandboxBalance_cases {projectId currency : String} {minor : ℕ} {db after : Db}
    {answer : Except StorageError Unit}
    (call : creditSandboxBalance projectId currency minor db = (answer, after)) :
    ((∃ error, answer = .error error) ∧ after = db) ∨
    (answer = .ok () ∧ upsertBalance projectId currency minor db = .ok after) := by
  unfold creditSandboxBalance at call
  rcases transaction_cases _ db with
    ⟨error, -, ended⟩ | ⟨result, dropped, -⟩ | ⟨result, work, committed, ended⟩
  · rw [ended] at call
    cases call
    exact .inl ⟨⟨error, rfl⟩, rfl⟩
  · obtain ⟨amount, -, rest⟩ := Except.exists_of_bind_eq_ok dropped
    obtain ⟨tx, -, last⟩ := Except.exists_of_bind_eq_ok rest
    cases last
  · rw [ended] at call
    cases call
    obtain ⟨amount, bound, rest⟩ := Except.exists_of_bind_eq_ok committed
    obtain ⟨-, rfl⟩ := toI64_eq_ok.mp bound
    obtain ⟨tx, written, last⟩ := Except.exists_of_bind_eq_ok rest
    cases last
    exact .inr ⟨rfl, written⟩

/-- The exits of `insertQuote`. -/
inductive QuoteInserted (now : DateTime) (id : String) (new : NewQuote) (db : Db) :
    Except StorageError QuoteRecord → Db → Prop where
  | inserted (positive : 0 < new.sourceMinor) (idFree : db.findQuote id = none) :
      QuoteInserted now id new db (.ok (quoteRow now id new))
        { db with sandboxQuotes := db.sandboxQuotes ++ [quoteRow now id new] }
  | refused (error : StorageError) : QuoteInserted now id new db (.error error) db

theorem insertQuote_inserted {now : DateTime} {id : String} {new : NewQuote} {db after : Db}
    {answer : Except StorageError QuoteRecord}
    (call : insertQuote now id new db = (answer, after)) :
    QuoteInserted now id new db answer after := by
  unfold insertQuote at call
  rcases transaction_cases _ db with
    ⟨error, -, ended⟩ | ⟨result, dropped, -⟩ | ⟨result, work, committed, ended⟩
  · rw [ended] at call
    cases call
    exact .refused error
  · obtain ⟨-, -, rest⟩ := Except.exists_of_bind_eq_ok dropped
    obtain ⟨-, -, rest⟩ := Except.exists_of_bind_eq_ok rest
    obtain ⟨-, -, rest⟩ := Except.exists_of_bind_eq_ok rest
    obtain ⟨-, -, rest⟩ := Except.exists_of_bind_eq_ok rest
    obtain ⟨tx, -, rest⟩ := Except.exists_of_bind_eq_ok rest
    cases rest
  · rw [ended] at call
    cases call
    obtain ⟨-, -, rest⟩ := Except.exists_of_bind_eq_ok committed
    obtain ⟨-, -, rest⟩ := Except.exists_of_bind_eq_ok rest
    obtain ⟨-, -, rest⟩ := Except.exists_of_bind_eq_ok rest
    obtain ⟨-, -, rest⟩ := Except.exists_of_bind_eq_ok rest
    obtain ⟨tx, inserted, rest⟩ := Except.exists_of_bind_eq_ok rest
    cases rest
    obtain ⟨positive, inserted⟩ := Except.not_and_of_ite_error inserted
    obtain ⟨-, inserted⟩ := Except.not_and_of_ite_error inserted
    obtain ⟨-, inserted⟩ := Except.not_and_of_ite_error inserted
    obtain ⟨fresh, inserted⟩ := Except.not_and_of_ite_error inserted
    cases inserted
    refine .inserted ?_ ?_
    · simp only [quoteRow] at positive
      omega
    · exact Option.not_isSome_iff_eq_none.mp fresh

/-- A quote that was taken is one of the table, of the project, and open. -/
theorem takeQuote_eq_ok {clock : DateTime} {request : Reservation} {tx : Db} {quote : QuoteRecord}
    (taken : takeQuote clock request tx = .ok quote) :
    quote ∈ tx.sandboxQuotes ∧ quote.projectId = request.projectId ∧
      quote.id = request.quoteId ∧ quote.status = .open_ := by
  obtain ⟨row, fetched, rest⟩ := Except.exists_of_bind_eq_ok taken
  obtain ⟨fresh, rest⟩ := Except.not_and_of_ite_error rest
  cases rest
  have found := fetchOne_eq_ok.mp fetched
  have matched := List.find?_some found
  simp only [decide_eq_true_eq] at matched
  exact ⟨List.mem_of_find?_eq_some found, matched.1, matched.2,
    not_not.mp fun other => fresh (.inl other)⟩

theorem checkBalance_eq_ok {request : Reservation} {quote : QuoteRecord} {tx : Db}
    (checked : checkBalance request quote tx = .ok ()) :
    quote.sourceMinor ≤ tx.balanceOf request.projectId quote.sourceCurrency := by
  obtain ⟨enough, -⟩ := Except.not_and_of_ite_error checked
  omega

theorem insertPayout_eq_ok {row : PayoutRecord} {tx after : Db}
    (inserted : insertPayout row tx = .ok after) :
    (∀ old ∈ tx.sandboxPayouts, ¬ PayoutClash row old) ∧
      after = { tx with sandboxPayouts := tx.sandboxPayouts ++ [row] } := by
  obtain ⟨-, inserted⟩ := Except.not_and_of_ite_error inserted
  obtain ⟨fresh, inserted⟩ := Except.not_and_of_ite_error inserted
  cases inserted
  refine ⟨?_, rfl⟩
  intro old member clash
  exact fresh ⟨old, member, clash⟩

/-- All that a reservation writes. -/
theorem writeReservation_eq_ok {now : DateTime} {request : Reservation} {quote : QuoteRecord}
    {tx after : Db} {payout : PayoutRecord}
    (written : writeReservation now request quote tx = .ok (payout, after)) :
    payout = reservedRow now request ∧
      (∀ old ∈ tx.sandboxPayouts, ¬ PayoutClash (reservedRow now request) old) ∧
      ∃ work, upsertBalance request.projectId quote.sourceCurrency (-quote.sourceMinor)
          (tx.withUsedQuote quote) = .ok work ∧
        after = { tx.withUsedQuote quote with
          sandboxBalances := work.sandboxBalances
          sandboxPayouts := tx.sandboxPayouts ++ [payout] }.emitPayout now payout := by
  obtain ⟨work, balance, rest⟩ := Except.exists_of_bind_eq_ok written
  obtain ⟨filled, inserted, rest⟩ := Except.exists_of_bind_eq_ok rest
  cases rest
  obtain ⟨fresh, rfl⟩ := insertPayout_eq_ok inserted
  have frame := upsertBalance_eq balance
  rw [frame] at fresh
  refine ⟨rfl, fresh, work, balance, ?_⟩
  rw [frame]
  rfl

/-- All that an advance writes. -/
theorem writeAdvance_eq_ok {now : DateTime} {current payout : PayoutRecord} {next : PayoutStatus}
    {tx after : Db} (written : writeAdvance now current next tx = .ok (payout, after)) :
    payout = advancedRow now next current ∧
      ∃ work, (if next = .failed then
          refundQuote current.quoteId (tx.withAdvanced now current.id next)
          else .ok (tx.withAdvanced now current.id next)) = .ok work ∧
        after = { tx.withAdvanced now current.id next with
          sandboxBalances := work.sandboxBalances }.emitPayout now payout := by
  obtain ⟨work, refunded, rest⟩ := Except.exists_of_bind_eq_ok written
  cases rest
  refine ⟨rfl, work, refunded, ?_⟩
  have frame : work = { tx.withAdvanced now current.id next with
      sandboxBalances := work.sandboxBalances } := by
    by_cases failed : next = .failed
    · rw [if_pos failed] at refunded
      exact refundQuote_eq refunded
    · rw [if_neg failed] at refunded
      cases refunded
      rfl
  rw [frame]

/-- The exits of `reservePayout`. -/
inductive Reserved (now clock : DateTime) (request : Reservation) (db : Db) :
    Except StorageError (PayoutRecord × Bool) → Db → Prop where
  | refused (error : StorageError) : Reserved now clock request db (.error error) db
  | replayed (prior : PayoutRecord)
      (found : db.findPayoutByKey request.projectId request.idempotencyKey = some prior)
      (quote : prior.quoteId = request.quoteId) (scenario : prior.scenario = request.scenario) :
      Reserved now clock request db (.ok (prior, false)) db
  | reserved (noPrior : db.findPayoutByKey request.projectId request.idempotencyKey = none)
      (quote : QuoteRecord) (taken : takeQuote clock request db = .ok quote)
      (checked : checkBalance request quote db = .ok ()) (payout : PayoutRecord) (work : Db)
      (written : writeReservation now request quote db = .ok (payout, work)) :
      Reserved now clock request db (.ok (payout, true)) work

theorem reservePayout_reserved {now clock : DateTime} {request : Reservation} {db after : Db}
    {answer : Except StorageError (PayoutRecord × Bool)}
    (call : reservePayout now clock request db = (answer, after)) :
    Reserved now clock request db answer after := by
  unfold reservePayout at call
  rcases transaction_cases _ db with
    ⟨error, -, ended⟩ | ⟨result, dropped, ended⟩ | ⟨result, work, committed, ended⟩
  · rw [ended] at call
    cases call
    exact .refused error
  · rw [ended] at call
    cases call
    dsimp only at dropped
    split at dropped
    · rename_i prior found
      obtain ⟨same, dropped⟩ := Except.not_and_of_ite_error dropped
      cases dropped
      obtain ⟨quote, scenario⟩ := not_or.mp same
      exact .replayed prior found (not_not.mp quote) (not_not.mp scenario)
    · obtain ⟨quote, -, rest⟩ := Except.exists_of_bind_eq_ok dropped
      obtain ⟨-, -, rest⟩ := Except.exists_of_bind_eq_ok rest
      obtain ⟨written, -, rest⟩ := Except.exists_of_bind_eq_ok rest
      cases rest
  · rw [ended] at call
    cases call
    dsimp only at committed
    split at committed
    · obtain ⟨-, committed⟩ := Except.not_and_of_ite_error committed
      cases committed
    · rename_i noPrior
      obtain ⟨quote, taken, rest⟩ := Except.exists_of_bind_eq_ok committed
      obtain ⟨⟨⟩, checked, rest⟩ := Except.exists_of_bind_eq_ok rest
      obtain ⟨⟨payout, work⟩, written, rest⟩ := Except.exists_of_bind_eq_ok rest
      cases rest
      exact .reserved noPrior quote taken checked payout work written

theorem reserveQuote_cases {now clock : DateTime} {request : Reservation} {db after : Db}
    {answer : Except StorageError PayoutRecord}
    (call : reserveQuote now clock request db = (answer, after)) :
    ((∃ error, answer = .error error) ∧ after = db) ∨
      ∃ quote payout, takeQuote clock request db = .ok quote ∧
        checkBalance request quote db = .ok () ∧
        writeReservation now request quote db = .ok (payout, after) ∧ answer = .ok payout := by
  unfold reserveQuote at call
  rcases transaction_cases _ db with
    ⟨error, -, ended⟩ | ⟨result, dropped, -⟩ | ⟨result, work, committed, ended⟩
  · rw [ended] at call
    cases call
    exact .inl ⟨⟨error, rfl⟩, rfl⟩
  · obtain ⟨quote, -, rest⟩ := Except.exists_of_bind_eq_ok dropped
    obtain ⟨-, -, rest⟩ := Except.exists_of_bind_eq_ok rest
    obtain ⟨written, -, rest⟩ := Except.exists_of_bind_eq_ok rest
    cases rest
  · rw [ended] at call
    cases call
    obtain ⟨quote, taken, rest⟩ := Except.exists_of_bind_eq_ok committed
    obtain ⟨⟨⟩, checked, rest⟩ := Except.exists_of_bind_eq_ok rest
    obtain ⟨⟨payout, work⟩, written, rest⟩ := Except.exists_of_bind_eq_ok rest
    cases rest
    exact .inr ⟨quote, _, taken, checked, written, rfl⟩

/-- No payout has the key of one that was just written. -/
theorem findPayoutByKey_of_written {now : DateTime} {request : Reservation} {quote : QuoteRecord}
    {db after : Db} {payout : PayoutRecord}
    (written : writeReservation now request quote db = .ok (payout, after)) :
    db.findPayoutByKey request.projectId request.idempotencyKey = none := by
  obtain ⟨-, fresh, -⟩ := writeReservation_eq_ok written
  refine lookup_eq_none.mpr ?_
  intro old member same
  obtain ⟨project, key⟩ := Prod.mk.inj same
  exact fresh old member (.inr (.inr ⟨project, key⟩))

/-- The exits of `advancePayout`. -/
inductive Advanced (now : DateTime) (payoutId : String) (next : PayoutStatus) (db : Db) :
    Except StorageError (PayoutRecord × Bool) → Db → Prop where
  | refused (error : StorageError) : Advanced now payoutId next db (.error error) db
  | repeated (current : PayoutRecord) (found : db.findPayout payoutId = some current)
      (same : current.status = next) : Advanced now payoutId next db (.ok (current, false)) db
  | advanced (current : PayoutRecord) (found : db.findPayout payoutId = some current)
      (legal : current.status.canTransitionTo next = true) (payout : PayoutRecord) (work : Db)
      (written : writeAdvance now current next db = .ok (payout, work)) :
      Advanced now payoutId next db (.ok (payout, true)) work

theorem advancePayout_advanced {now : DateTime} {payoutId : String} {next : PayoutStatus}
    {db after : Db} {answer : Except StorageError (PayoutRecord × Bool)}
    (call : advancePayout now payoutId next db = (answer, after)) :
    Advanced now payoutId next db answer after := by
  unfold advancePayout at call
  rcases transaction_cases _ db with
    ⟨error, -, ended⟩ | ⟨result, dropped, ended⟩ | ⟨result, work, committed, ended⟩
  · rw [ended] at call
    cases call
    exact .refused error
  · rw [ended] at call
    cases call
    obtain ⟨current, fetched, rest⟩ := Except.exists_of_bind_eq_ok dropped
    have found := fetchOne_eq_ok.mp fetched
    by_cases same : current.status = next
    · rw [if_pos same] at rest
      cases rest
      exact .repeated current found same
    · rw [if_neg same] at rest
      obtain ⟨-, rest⟩ := Except.not_and_of_ite_error rest
      obtain ⟨written, -, rest⟩ := Except.exists_of_bind_eq_ok rest
      cases rest
  · rw [ended] at call
    cases call
    obtain ⟨current, fetched, rest⟩ := Except.exists_of_bind_eq_ok committed
    have found := fetchOne_eq_ok.mp fetched
    by_cases same : current.status = next
    · rw [if_pos same] at rest
      cases rest
    · rw [if_neg same] at rest
      obtain ⟨legal, rest⟩ := Except.not_and_of_ite_error rest
      obtain ⟨⟨payout, work⟩, written, rest⟩ := Except.exists_of_bind_eq_ok rest
      cases rest
      exact .advanced current found (Bool.not_eq_false _ ▸ legal) _ _ written

/-- Attaching a payment writes the table of payouts only. -/
theorem attachPaymentToPayout_cases {now : DateTime} {payoutId paymentId : String} {db after : Db}
    {answer : Except StorageError Unit}
    (call : attachPaymentToPayout now payoutId paymentId db = (answer, after)) :
    after = db ∨ after = { db with
      sandboxPayouts := updateWhere (fun row => row.id = payoutId) (attachedRow now paymentId)
        db.sandboxPayouts } := by
  simp only [attachPaymentToPayout, transaction] at call
  split at call
  · cases call
    exact .inl rfl
  · cases call
    exact .inl rfl
  · rename_i result work committed
    cases call
    obtain ⟨-, committed⟩ := Except.not_and_of_ite_error committed
    cases committed
    exact .inr rfl

end Db

end Safrod

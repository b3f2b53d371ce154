import Safrod.Storage.Ledger
import Safrod.Storage.Operations

/-!
# Histories of payouts and quotes

`PayoutsChanged` and `QuotesChanged` are what one storage call can do to the two
tables: leave them, add a row under new keys, or rewrite one. From them, a row is
never removed, a payout keeps what its request asked for and only moves along
`canTransitionTo`, and a quote keeps everything but its status (`PayoutLater`).

`ledger_of_reachable` is the ledger as an invariant of every sequence of calls.
-/

set_option autoImplicit false

namespace Safrod

open Table

namespace Db

/-! ## What a call does to the two tables -/

inductive PayoutsChanged (db : Db) (rows : List PayoutRecord) : Prop where
  | same (kept : rows = db.sandboxPayouts)
  | reserved (now : DateTime) (request : Reservation)
      (fresh : ∀ old ∈ db.sandboxPayouts, ¬ PayoutClash (reservedRow now request) old)
      (added : rows = db.sandboxPayouts ++ [reservedRow now request])
  | advanced (now : DateTime) (current : PayoutRecord) (next : PayoutStatus)
      (found : db.findPayout current.id = some current)
      (legal : current.status.canTransitionTo next = true)
      (set : rows = updateWhere (fun row => row.id = current.id) (advancedRow now next)
        db.sandboxPayouts)
  | attached (now : DateTime) (payoutId paymentId : String)
      (set : rows = updateWhere (fun row => row.id = payoutId) (attachedRow now paymentId)
        db.sandboxPayouts)

inductive QuotesChanged (db : Db) (rows : List QuoteRecord) : Prop where
  | same (kept : rows = db.sandboxQuotes)
  | inserted (row : QuoteRecord) (idFree : db.findQuote row.id = none)
      (added : rows = db.sandboxQuotes ++ [row])
  | used (quote : QuoteRecord)
      (set : rows = updateWhere (fun row => row.id = quote.id) usedRow db.sandboxQuotes)

theorem Performed.payouts {db after : Db} (performed : Performed db after) :
    PayoutsChanged db after.sandboxPayouts := by
  cases performed with
  | invoicesExpired now => exact .same (afterExpire_sandboxPayouts now db)
  | paymentMoved now dedupeKey next fee resolution row found legal =>
      exact .same (afterMove_sandboxPayouts _ _ _ _ _ _ _)
  | payoutReserved now request quote balances fresh => exact .reserved now request fresh rfl
  | payoutAdvanced now current next balances found legal =>
      exact .advanced now current next found legal rfl
  | payoutAttached now payoutId paymentId => exact .attached now payoutId paymentId rfl
  | _ => exact .same rfl

theorem Performed.quotes {db after : Db} (performed : Performed db after) :
    QuotesChanged db after.sandboxQuotes := by
  cases performed with
  | invoicesExpired now =>
      have same : SameSandbox db (perform (.expireInvoices now) db) := perform_sameSandbox rfl db
      exact .same same.quotes
  | paymentMoved now dedupeKey next fee resolution row found legal =>
      exact .same (afterMove_sandboxQuotes _ _ _ _ _ _ _)
  | quoteInserted row idFree => exact .inserted row idFree rfl
  | payoutReserved now request quote balances fresh => exact .used quote rfl
  | _ => exact .same rfl

/-! ## Rows in a later database -/

/-- What stays of a payout. -/
structure PayoutKept (row later : PayoutRecord) : Prop where
  projectId : later.projectId = row.projectId
  quoteId : later.quoteId = row.quoteId
  idempotencyKey : later.idempotencyKey = row.idempotencyKey
  scenario : later.scenario = row.scenario
  settlementBolt11 : later.settlementBolt11 = row.settlementBolt11
  status : later.status = row.status ∨ row.status.canTransitionTo later.status = true

theorem PayoutKept.refl (row : PayoutRecord) : PayoutKept row row :=
  ⟨rfl, rfl, rfl, rfl, rfl, .inl rfl⟩

structure QuoteKept (row later : QuoteRecord) : Prop where
  projectId : later.projectId = row.projectId
  sourceCurrency : later.sourceCurrency = row.sourceCurrency
  sourceMinor : later.sourceMinor = row.sourceMinor
  btcAmountMsat : later.btcAmountMsat = row.btcAmountMsat

theorem QuoteKept.refl (row : QuoteRecord) : QuoteKept row row := ⟨rfl, rfl, rfl, rfl⟩

/-- The payouts and quotes of one database in a later one. -/
structure PayoutLater (db after : Db) : Prop where
  payouts : ∀ id row, db.findPayout id = some row →
    ∃ later, after.findPayout id = some later ∧ PayoutKept row later
  quotes : ∀ id row, db.findQuote id = some row →
    ∃ later, after.findQuote id = some later ∧ QuoteKept row later

theorem PayoutLater.refl (db : Db) : PayoutLater db db :=
  ⟨fun _ row found => ⟨row, found, .refl row⟩, fun _ row found => ⟨row, found, .refl row⟩⟩

theorem PayoutsChanged.later {db after : Db} (changed : PayoutsChanged db after.sandboxPayouts)
    {id : String} {row : PayoutRecord} (found : db.findPayout id = some row) :
    ∃ later, after.findPayout id = some later ∧ PayoutKept row later := by
  cases changed with
  | same kept =>
      refine ⟨row, ?_, .refl row⟩
      rw [findPayout, kept]
      exact found
  | reserved now request fresh added =>
      refine ⟨row, ?_, .refl row⟩
      rw [findPayout, added, lookup_append_singleton]
      rw [findPayout] at found
      rw [found]
      rfl
  | advanced now current next current_ legal set =>
      rw [findPayout, set, lookup_updateWhere_key current_ (advancedRow now next) fun _ => rfl]
      by_cases here : current.id = id
      · subst here
        cases current_.symm.trans found
        exact ⟨_, if_pos rfl, rfl, rfl, rfl, rfl, rfl, .inr legal⟩
      · exact ⟨row, (if_neg here).trans found, .refl row⟩
  | attached now payoutId paymentId set =>
      rw [findPayout, set, lookup_updateWhere (attachedRow now paymentId) fun _ => rfl]
      rw [findPayout] at found
      rw [found]
      refine ⟨_, rfl, ?_⟩
      dsimp only
      split
      · exact ⟨rfl, rfl, rfl, rfl, rfl, .inl rfl⟩
      · exact .refl row

theorem QuotesChanged.later {db after : Db} (changed : QuotesChanged db after.sandboxQuotes)
    {id : String} {row : QuoteRecord} (found : db.findQuote id = some row) :
    ∃ later, after.findQuote id = some later ∧ QuoteKept row later := by
  cases changed with
  | same kept =>
      refine ⟨row, ?_, .refl row⟩
      rw [findQuote, kept]
      exact found
  | inserted new idFree added =>
      refine ⟨row, ?_, .refl row⟩
      rw [findQuote, added, lookup_append_singleton]
      rw [findQuote] at found
      rw [found]
      rfl
  | used quote set =>
      rw [findQuote, set, lookup_updateWhere usedRow fun _ => rfl]
      rw [findQuote] at found
      rw [found]
      refine ⟨_, rfl, ?_⟩
      dsimp only
      split
      · exact ⟨rfl, rfl, rfl, rfl⟩
      · exact .refl row

/-- **No call takes a payout or a quote away.** -/
theorem perform_payoutLater (call : Call) (db : Db) : PayoutLater db (perform call db) :=
  ⟨fun _ _ found => (perform_performed call db).payouts.later found,
    fun _ _ found => (perform_performed call db).quotes.later found⟩

theorem payoutLater_of_performed {db after : Db}
    (performed : after = db ∨ ∃ call, after = db.perform call) : PayoutLater db after := by
  rcases performed with rfl | ⟨call, rfl⟩
  · exact .refl _
  · exact perform_payoutLater call db

/-! ## What the calls answer -/

/-- An advance that succeeds answers with the stored row, which has the status now,
and leaves the other payouts alone. -/
theorem advancePayout_ok {now : DateTime} {payoutId : String} {next : PayoutStatus}
    {db after : Db} {row : PayoutRecord} {changed : Bool}
    (called : advancePayout now payoutId next db = (.ok (row, changed), after)) :
    row.status = next ∧ after.findPayout payoutId = some row ∧
      (∀ id, id ≠ payoutId → after.findPayout id = db.findPayout id) ∧
      ∃ current, db.findPayout payoutId = some current ∧
        (current.status = next ∨ current.status.canTransitionTo next = true) ∧
        PayoutKept current row := by
  cases advancePayout_advanced called with
  | repeated current found same =>
      exact ⟨same, found, fun _ _ => rfl, row, found, .inl same, .refl row⟩
  | advanced current found legal payout work written =>
      obtain ⟨rfl, balance, -, rfl⟩ := writeAdvance_eq_ok written
      obtain ⟨-, rfl⟩ := lookup_some found
      have looked := lookup_updateWhere_key found (advancedRow now next) fun _ => rfl
      refine ⟨rfl, (looked current.id).trans (if_pos rfl), ?_, current, found, .inr legal, rfl, rfl,
        rfl, rfl, rfl, .inr legal⟩
      intro id other
      exact (looked id).trans (if_neg fun same => other same.symm)

/-- A reservation that succeeds answers with the row it added, which nothing had the
identifier or the key of. -/
theorem reserveQuote_ok {now clock : DateTime} {request : Reservation} {db after : Db}
    {payout : PayoutRecord} (called : reserveQuote now clock request db = (.ok payout, after)) :
    payout = reservedRow now request ∧ db.findPayout request.payoutId = none ∧
      db.findPayoutByKey request.projectId request.idempotencyKey = none ∧
      after.sandboxPayouts = db.sandboxPayouts ++ [payout] := by
  rcases reserveQuote_cases called with ⟨⟨error, wrong⟩, -⟩ | ⟨quote, row, -, -, written, same⟩
  · cases wrong
  · cases same
    have keyFree := findPayoutByKey_of_written written
    obtain ⟨rfl, fresh, work, -, rfl⟩ := writeReservation_eq_ok written
    exact ⟨rfl, lookup_eq_none.mpr fun old member same => fresh old member (.inl same), keyFree,
      rfl⟩

/-- What attaching a payment leaves of a payout. -/
theorem attachPaymentToPayout_ok {now : DateTime} {payoutId paymentId : String} {db after : Db}
    (called : attachPaymentToPayout now payoutId paymentId db = (.ok (), after)) (id : String) :
    after.findPayout id = (db.findPayout id).map fun row =>
      if row.id = payoutId then attachedRow now paymentId row else row := by
  unfold attachPaymentToPayout at called
  rcases transaction_cases _ db with
    ⟨failure, -, ended⟩ | ⟨result, dropped, -⟩ | ⟨result, work, committed, ended⟩
  · rw [ended] at called
    cases called
  · obtain ⟨-, dropped⟩ := Except.not_and_of_ite_error dropped
    cases dropped
  · rw [ended] at called
    cases called
    obtain ⟨-, committed⟩ := Except.not_and_of_ite_error committed
    cases committed
    exact lookup_updateWhere (attachedRow now paymentId) (fun _ => rfl) id

/-- The balance has room for the refund of a quote. -/
def Refundable (db : Db) (quoteId : String) : Prop :=
  ∀ quote, db.findQuote quoteId = some quote →
    db.balanceOf quote.projectId quote.sourceCurrency + quote.sourceMinor ≤ i64Max

theorem addBigint_fits {left right : ℤ} (nonneg : 0 ≤ left) (positive : 0 < right)
    (fits : left + right ≤ i64Max) : addBigint left right = .ok (left + right) := by
  refine if_pos ⟨fits, ?_⟩
  have room : (0 : ℤ) ≤ i64Max := Int.natCast_nonneg _
  omega

/-- An advance along an edge succeeds, when there is room for the refund. -/
theorem advancePayout_legal {db : Db} {credits : List Credit} (ledger : Ledger db credits)
    {now : DateTime} {next : PayoutStatus} {row : PayoutRecord}
    (found : db.findPayout row.id = some row) (legal : row.status.canTransitionTo next = true)
    (fits : next = .failed → db.Refundable row.quoteId) :
    ∃ after, advancePayout now row.id next db = (.ok (advancedRow now next row, true), after) := by
  have moves : row.status ≠ next := by
    rintro rfl
    rw [PayoutStatus.not_canTransitionTo_self] at legal
    cases legal
  have refunded : ∃ work, (if next = .failed then
      refundQuote row.quoteId (db.withAdvanced now row.id next)
      else .ok (db.withAdvanced now row.id next)) = .ok work := by
    split
    · rename_i failed
      have room := fits failed
      simp only [refundQuote]
      split
      · exact ⟨_, rfl⟩
      · rename_i quote priced
        split
        · exact ⟨_, rfl⟩
        · rename_i balance opened
          have priced : db.findQuote row.quoteId = some quote := priced
          have minor : db.balanceOf quote.projectId quote.sourceCurrency = balance.minor :=
            balanceOf_eq_of_lookup opened
          have room := room quote priced
          have nonneg := ledger.nonneg quote.projectId quote.sourceCurrency
          rw [minor] at room nonneg
          rw [addBigint_fits nonneg (ledger.positive quote (lookup_some priced).1) room]
          exact ⟨_, rfl⟩
    · exact ⟨_, rfl⟩
  obtain ⟨work, refunded⟩ := refunded
  have written : writeAdvance now row next db =
      .ok (advancedRow now next row, work.emitPayout now (advancedRow now next row)) := by
    simp only [writeAdvance, bind, Except.bind]
    rw [show (advancedRow now next row).quoteId = row.quoteId from rfl, refunded]
    rfl
  simp only [advancePayout, transaction, found, fetchOne, bind, Except.bind, if_neg moves, legal,
    Bool.true_eq_false, if_false, written]
  exact ⟨_, rfl⟩

/-! ## Unique keys -/

/-- The primary key and the unique indexes of `sandbox_payouts`. -/
structure PayoutKeys (rows : List PayoutRecord) : Prop where
  ids : KeyUnique (fun row : PayoutRecord => row.id) rows
  quoteIds : KeyUnique (fun row : PayoutRecord => row.quoteId) rows
  idempotency : KeyUnique (fun row : PayoutRecord => (row.projectId, row.idempotencyKey)) rows

theorem PayoutsChanged.keys {db : Db} {rows : List PayoutRecord} (changed : PayoutsChanged db rows)
    (keyed : PayoutKeys db.sandboxPayouts) : PayoutKeys rows := by
  cases changed with
  | same kept =>
      rw [kept]
      exact keyed
  | reserved now request fresh added =>
      rw [added]
      refine ⟨keyed.ids.append_singleton ?_, keyed.quoteIds.append_singleton ?_,
        keyed.idempotency.append_singleton ?_⟩
      · exact fun old member same => fresh old member (.inl same)
      · exact fun old member same => fresh old member (.inr (.inl same))
      · intro old member same
        obtain ⟨project, key⟩ := Prod.mk.inj same
        exact fresh old member (.inr (.inr ⟨project, key⟩))
  | advanced now current next found legal set =>
      rw [set]
      exact ⟨keyed.ids.update fun _ => rfl, keyed.quoteIds.update fun _ => rfl,
        keyed.idempotency.update fun _ => rfl⟩
  | attached now payoutId paymentId set =>
      rw [set]
      exact ⟨keyed.ids.update fun _ => rfl, keyed.quoteIds.update fun _ => rfl,
        keyed.idempotency.update fun _ => rfl⟩

theorem payoutKeys_of_reachable {db : Db} (reached : storage.Reachable db) :
    PayoutKeys db.sandboxPayouts := by
  refine reached.invariant (fun db => PayoutKeys db.sandboxPayouts) ?_ ?_
  · rintro _ rfl
    exact ⟨KeyUnique.nil, KeyUnique.nil, KeyUnique.nil⟩
  · intro db call next _ keyed step
    cases step
    exact (perform_performed call db).payouts.keys keyed

/-! ## The ledger over runs -/

theorem Ledger.same {db after : Db} {credits : List Credit} (ledger : Ledger db credits)
    (same : SameSandbox db after) : Ledger after credits := by
  obtain ⟨quotes, payouts, balances⟩ := same
  have findQuote : ∀ id, after.findQuote id = db.findQuote id := by
    intro id
    rw [Db.findQuote, quotes, Db.findQuote]
  have balanceOf : ∀ projectId currency,
      after.balanceOf projectId currency = db.balanceOf projectId currency := by
    intro projectId currency
    rw [Db.balanceOf, balances, Db.balanceOf]
  refine ⟨?_, ?_, ?_, ?_, ?_, ?_, ?_, ?_, ?_⟩
  · rw [balances]
    exact ledger.balanceKeys
  · rw [quotes]
    exact ledger.quoteIds
  · rw [payouts]
    exact ledger.payoutIds
  · rw [payouts]
    exact ledger.payoutQuotes
  · rw [quotes]
    exact ledger.positive
  · rw [payouts]
    intro payout member
    obtain ⟨quote, found, project, used, opened⟩ := ledger.quoted payout member
    refine ⟨quote, (findQuote _).trans found, project, used, ?_⟩
    rw [Opened, balances]
    exact opened
  · rw [quotes, payouts]
    exact ledger.used
  · intro projectId currency
    rw [balanceOf]
    exact ledger.nonneg projectId currency
  · intro projectId currency
    have reserved : after.reservedMinor projectId currency =
        db.reservedMinor projectId currency := by
      rw [reservedMinor, payouts, reservedMinor]
      refine congrArg List.sum (List.map_congr_left fun payout _ => ?_)
      exact heldMinor_congr (by rw [findQuote]) _ _
    rw [balanceOf, reserved]
    exact ledger.balance projectId currency

/-- **Attaching a payment keeps the ledger.** -/
theorem Ledger.attached {db : Db} {credits : List Credit} (ledger : Ledger db credits)
    (now : DateTime) (payoutId paymentId : String) :
    Ledger { db with
      sandboxPayouts := updateWhere (fun row => row.id = payoutId) (attachedRow now paymentId)
        db.sandboxPayouts } credits := by
  refine ⟨ledger.balanceKeys, ledger.quoteIds, ledger.payoutIds.update fun _ => rfl,
    ledger.payoutQuotes.update fun _ => rfl, ledger.positive, ?_, ?_, ledger.nonneg, ?_⟩
  · intro payout there
    obtain ⟨old, oldMember, rfl⟩ := mem_updateWhere.mp there
    obtain ⟨quote, found, project, used, opened⟩ := ledger.quoted old oldMember
    refine ⟨quote, ?_, ?_, used, opened⟩
    · refine Eq.trans ?_ found
      split <;> rfl
    · rw [project]
      split <;> rfl
  · intro quote there used
    obtain ⟨payout, member, refers⟩ := ledger.used quote there used
    refine ⟨_, mem_updateWhere.mpr ⟨payout, member, rfl⟩, ?_⟩
    rw [← refers]
    split <;> rfl
  · intro projectId currency
    refine (ledger.balance projectId currency).trans ?_
    have weights : (updateWhere (fun row => row.id = payoutId) (attachedRow now paymentId)
          db.sandboxPayouts).map (db.heldMinor projectId currency) =
        db.sandboxPayouts.map (db.heldMinor projectId currency) :=
      map_updateWhere _ fun _ => rfl
    exact congrArg (fun total => _ - List.sum total) weights.symm

/-- **A call keeps the ledger.** -/
theorem Ledger.perform {db : Db} {credits : List Credit} (ledger : Ledger db credits)
    (call : Call) : ∃ credits, Ledger (db.perform call) credits := by
  cases call with
  | insertQuote now id new =>
      cases ended : insertQuote now id new db with
      | mk answer after =>
          rw [Db.perform, ended]
          cases insertQuote_inserted ended with
          | refused error => exact ⟨credits, ledger⟩
          | inserted positive idFree =>
              exact ⟨credits, ledger.quoteInserted (Int.natCast_pos.mpr positive) rfl idFree⟩
  | reservePayout now clock request =>
      cases ended : reservePayout now clock request db with
      | mk answer after =>
          rw [Db.perform, ended]
          cases reservePayout_reserved ended with
          | refused error => exact ⟨credits, ledger⟩
          | replayed prior found quote scenario => exact ⟨credits, ledger⟩
          | reserved noPrior quote taken checked payout work written =>
              obtain ⟨member, project, id, -⟩ := takeQuote_eq_ok taken
              exact ⟨credits,
                ledger.reserved member project id (checkBalance_eq_ok checked) written⟩
  | advancePayout now payoutId next =>
      cases ended : advancePayout now payoutId next db with
      | mk answer after =>
          rw [Db.perform, ended]
          cases advancePayout_advanced ended with
          | refused error => exact ⟨credits, ledger⟩
          | repeated current found same => exact ⟨credits, ledger⟩
          | advanced current found legal payout work written =>
              obtain ⟨-, rfl⟩ := lookup_some found
              exact ⟨credits, ledger.advanced found legal written⟩
  | attachPaymentToPayout now payoutId paymentId =>
      cases ended : attachPaymentToPayout now payoutId paymentId db with
      | mk answer after =>
          rw [Db.perform, ended]
          rcases attachPaymentToPayout_cases ended with rfl | rfl
          · exact ⟨credits, ledger⟩
          · exact ⟨credits, ledger.attached now payoutId paymentId⟩
  | creditSandboxBalance projectId currency minor =>
      cases ended : creditSandboxBalance projectId currency minor db with
      | mk answer after =>
          rw [Db.perform, ended]
          rcases creditSandboxBalance_cases ended with ⟨-, rfl⟩ | ⟨-, written⟩
          · exact ⟨credits, ledger⟩
          · exact ⟨_, ledger.credited written⟩
  | _ => exact ⟨credits, ledger.same (perform_sameSandbox rfl db)⟩

/-- **The ledger holds after every sequence of calls.** -/
theorem ledger_of_reachable {db : Db} (reached : storage.Reachable db) :
    ∃ credits, Ledger db credits := by
  refine reached.invariant (fun db => ∃ credits, Ledger db credits) ?_ ?_
  · rintro _ rfl
    exact ⟨[], ledger_empty rfl rfl rfl⟩
  · rintro db call next - ⟨credits, ledger⟩ step
    cases step
    exact ledger.perform call

end Db

end Safrod

import Safrod.Storage.PayoutHistory

/-!
# Calls that succeed

When a quote can be stored and when it can be reserved: what the calls need, and
what they leave. Balances never leave the range of their column
(`balance_le_of_reachable`), so a reservation that is covered is never out of range.
-/

set_option autoImplicit false

namespace Safrod

open Table

namespace Db

/-! ## The range of a balance -/

def BalancesFit (db : Db) : Prop := ∀ row ∈ db.sandboxBalances, row.minor ≤ i64Max

theorem addBigint_le {left right sum : ℤ} (added : addBigint left right = .ok sum) :
    sum ≤ i64Max := by
  unfold addBigint at added
  split at added
  · rename_i fits
    cases added
    exact fits.1
  · cases added

theorem BalancesFit.withMinor {db : Db} (fit : db.BalancesFit) {projectId currency : String}
    {minor : ℤ} (fits : minor ≤ i64Max) : (db.withMinor projectId currency minor).BalancesFit := by
  intro row member
  obtain ⟨old, there, rfl⟩ := mem_updateWhere.mp member
  split
  · exact fits
  · exact fit old there

theorem BalancesFit.upserted {db after : Db} (fit : db.BalancesFit) {projectId currency : String}
    {minor : ℤ} (fits : minor ≤ i64Max)
    (written : upsertBalance projectId currency minor db = .ok after) : after.BalancesFit := by
  unfold upsertBalance at written
  split at written
  · cases written
    intro row member
    rcases List.mem_append.mp member with old | new
    · exact fit row old
    · cases List.mem_singleton.mp new
      exact fits
  · obtain ⟨sum, added, rfl⟩ := Except.exists_of_map_eq_ok written
    exact fit.withMinor (addBigint_le added)

theorem BalancesFit.refunded {db after : Db} (fit : db.BalancesFit) {quoteId : String}
    (written : refundQuote quoteId db = .ok after) : after.BalancesFit := by
  unfold refundQuote at written
  split at written
  · cases written
    exact fit
  · split at written
    · cases written
      exact fit
    · obtain ⟨sum, added, rfl⟩ := Except.exists_of_map_eq_ok written
      exact fit.withMinor (addBigint_le added)

/-- What is credited fits its column. -/
theorem creditSandboxBalance_le {projectId currency : String} {minor : ℕ} {db after : Db}
    (call : creditSandboxBalance projectId currency minor db = (.ok (), after)) :
    minor ≤ i64Max := by
  by_contra large
  have refused : creditSandboxBalance projectId currency minor db =
      (.error .amountOutOfRange, db) := by
    simp only [creditSandboxBalance, transaction, toI64, if_neg large, bind, Except.bind]
  rw [refused] at call
  cases call

theorem BalancesFit.of_same {db after : Db} (fit : db.BalancesFit)
    (same : after.sandboxBalances = db.sandboxBalances) : after.BalancesFit := by
  intro row member
  rw [same] at member
  exact fit row member

/-- **Every balance fits its column.** -/
theorem balancesFit_of_reachable {db : Db} (reached : storage.Reachable db) : db.BalancesFit := by
  refine reached.invariant BalancesFit ?_ ?_
  · rintro _ rfl
    exact fun row member => absurd member List.not_mem_nil
  · intro db call next earlier fit step
    cases step
    cases call with
    | insertQuote now id new =>
        cases ended : insertQuote now id new db with
        | mk answer after =>
            rw [perform, ended]
            cases insertQuote_inserted ended with
            | refused error => exact fit
            | inserted positive idFree => exact fit
    | reservePayout now clock request =>
        cases ended : reservePayout now clock request db with
        | mk answer after =>
            rw [perform, ended]
            cases reservePayout_reserved ended with
            | refused error => exact fit
            | replayed prior found quote scenario => exact fit
            | reserved noPrior quote taken checked payout work written =>
                obtain ⟨credits, ledger⟩ := ledger_of_reachable earlier
                obtain ⟨-, -, upserted, balance, rfl⟩ := writeReservation_eq_ok written
                have positive := ledger.positive quote (takeQuote_eq_ok taken).1
                have small : -quote.sourceMinor ≤ i64Max := by
                  have room : (0 : ℤ) ≤ i64Max := Int.natCast_nonneg _
                  omega
                have used : (db.withUsedQuote quote).BalancesFit := fit
                exact (used.upserted small balance).of_same rfl
    | advancePayout now payoutId next =>
        cases ended : advancePayout now payoutId next db with
        | mk answer after =>
            rw [perform, ended]
            cases advancePayout_advanced ended with
            | refused error => exact fit
            | repeated current found same => exact fit
            | advanced current found legal payout work written =>
                obtain ⟨-, refunded, balance, rfl⟩ := writeAdvance_eq_ok written
                have moved : (db.withAdvanced now current.id next).BalancesFit := fit
                split at balance
                · exact (moved.refunded balance).of_same rfl
                · cases balance
                  exact moved.of_same rfl
    | attachPaymentToPayout now payoutId paymentId =>
        cases ended : attachPaymentToPayout now payoutId paymentId db with
        | mk answer after =>
            rw [perform, ended]
            rcases attachPaymentToPayout_cases ended with rfl | rfl
            · exact fit
            · exact fit
    | creditSandboxBalance projectId currency minor =>
        cases ended : creditSandboxBalance projectId currency minor db with
        | mk answer after =>
            rw [perform, ended]
            rcases creditSandboxBalance_cases ended with ⟨-, rfl⟩ | ⟨rfl, written⟩
            · exact fit
            · exact fit.upserted (Int.ofNat_le.mpr (creditSandboxBalance_le ended)) written
    | _ => exact fit.of_same (perform_sameSandbox rfl db).balances

theorem balance_le_of_reachable {db : Db} (reached : storage.Reachable db)
    (projectId currency : String) : db.balanceOf projectId currency ≤ i64Max := by
  unfold balanceOf
  split
  · exact Int.natCast_nonneg _
  · rename_i row found
    exact balancesFit_of_reachable reached row (lookup_some found).1

/-! ## Storing a quote -/

/-- A quote that fits its columns is stored under a new identifier. -/
theorem insertQuote_fresh {db : Db} {now : DateTime} {id : String} {new : NewQuote}
    (idFree : db.findQuote id = none) (source : 0 < new.sourceMinor ∧ new.sourceMinor ≤ i64Max)
    (target : 0 < new.targetMinor ∧ new.targetMinor ≤ i64Max) (rate : new.ratePpm ≤ i64Max)
    (amount : 0 < new.btcAmountMsat ∧ new.btcAmountMsat ≤ i64Max) :
    insertQuote now id new db = (.ok (quoteRow now id new),
      { db with sandboxQuotes := db.sandboxQuotes ++ [quoteRow now id new] }) := by
  have positive : ∀ value : ℕ, 0 < value → ¬ ((value : ℤ) ≤ 0) := by
    intro value some_ none_
    omega
  have inserted : insertQuoteRow (quoteRow now id new) db =
      .ok { db with sandboxQuotes := db.sandboxQuotes ++ [quoteRow now id new] } := by
    have sourceChecked : ¬ (quoteRow now id new).sourceMinor ≤ 0 := positive _ source.1
    have targetChecked : ¬ (quoteRow now id new).targetMinor ≤ 0 := positive _ target.1
    have amountChecked : ¬ (quoteRow now id new).btcAmountMsat ≤ 0 := positive _ amount.1
    have free : ¬ (db.findQuote (quoteRow now id new).id).isSome = true := by
      rw [show db.findQuote (quoteRow now id new).id = none from idFree]
      exact Bool.false_ne_true
    rw [insertQuoteRow, if_neg sourceChecked, if_neg targetChecked, if_neg amountChecked,
      if_neg free]
  simp only [insertQuote, transaction, toI64, if_pos source.2, if_pos target.2, if_pos rate,
    if_pos amount.2, inserted, bind, Except.bind]
  rfl

/-! ## Reserving a quote -/

/-- What a reservation that is covered leaves: the balance is lower, and the other
payouts and quotes are as before. -/
structure FundedReservation (request : Reservation) (quote : QuoteRecord) (db after : Db) :
    Prop where
  balance : after.balanceOf request.projectId quote.sourceCurrency =
    db.balanceOf request.projectId quote.sourceCurrency - quote.sourceMinor
  payouts : ∀ id row, db.findPayout id = some row → after.findPayout id = some row
  quotes : ∀ id, id ≠ quote.id → after.findQuote id = db.findQuote id

/-- **A fresh request reserves an open quote that its balance covers.** -/
theorem reserveQuote_funded {db : Db} (reached : storage.Reachable db) {now clock : DateTime}
    {request : Reservation} {quote : QuoteRecord}
    (found : db.findQuote quote.id = some quote) (named : quote.id = request.quoteId)
    (project : quote.projectId = request.projectId) (opened : quote.status = .open_)
    (stands : ¬ quote.expiresAt < clock)
    (covered : quote.sourceMinor ≤ db.balanceOf request.projectId quote.sourceCurrency)
    (scenario : request.scenario ∈ scenarios)
    (fresh : ∀ old ∈ db.sandboxPayouts, ¬ PayoutClash (reservedRow now request) old) :
    ∃ after, reserveQuote now clock request db = (.ok (reservedRow now request), after) ∧
      FundedReservation request quote db after := by
  obtain ⟨credits, ledger⟩ := ledger_of_reachable reached
  have positive := ledger.positive quote (lookup_some found).1
  have taken : takeQuote clock request db = .ok quote := by
    have fetched : fetchOne (db.sandboxQuotes.find? fun row =>
        row.projectId = request.projectId ∧ row.id = request.quoteId) = .ok quote := by
      rw [fetchOne_eq_ok, ledger.quoteIds.find?_and, Option.filter_eq_some_iff, decide_eq_true_eq]
      exact ⟨named ▸ found, project⟩
    simp only [takeQuote, fetched, bind, Except.bind]
    exact if_neg (not_or.mpr ⟨fun other => other opened, stands⟩)
  have checked : checkBalance request quote db = .ok () := if_neg (not_lt.mpr covered)
  have upserted : ∃ work, upsertBalance request.projectId quote.sourceCurrency (-quote.sourceMinor)
      (db.withUsedQuote quote) = .ok work := by
    cases there : lookup balanceKey (request.projectId, quote.sourceCurrency)
        db.sandboxBalances with
    | none =>
        rw [balanceOf, there] at covered
        exact absurd positive (not_lt.mpr covered)
    | some row =>
        have minor := balanceOf_eq_of_lookup there
        have large := balance_le_of_reachable reached request.projectId quote.sourceCurrency
        have within : addBigint row.minor (-quote.sourceMinor) =
            .ok (row.minor + -quote.sourceMinor) := by
          refine if_pos ⟨?_, ?_⟩
          · omega
          · have room : (0 : ℤ) ≤ i64Max := Int.natCast_nonneg _
            omega
        have there : lookup balanceKey (request.projectId, quote.sourceCurrency)
            (db.withUsedQuote quote).sandboxBalances = some row := there
        simp only [upsertBalance, there, within]
        exact ⟨_, rfl⟩
  obtain ⟨work, upserted⟩ := upserted
  have frame := upsertBalance_eq upserted
  have inserted : insertPayout (reservedRow now request) work =
      .ok { work with sandboxPayouts := work.sandboxPayouts ++ [reservedRow now request] } := by
    have known : ¬ (reservedRow now request).scenario ∉ scenarios := not_not.mpr scenario
    have clear : ¬ ∃ old ∈ work.sandboxPayouts, PayoutClash (reservedRow now request) old := by
      rintro ⟨old, member, clash⟩
      rw [frame] at member
      exact fresh old member clash
    rw [insertPayout, if_neg known, if_neg clear]
  have written : writeReservation now request quote db = .ok (reservedRow now request,
      { work with
        sandboxPayouts := work.sandboxPayouts ++ [reservedRow now request] }.emitPayout now
          (reservedRow now request)) := by
    simp only [writeReservation, upserted, inserted, bind, Except.bind]
    rfl
  have called : reserveQuote now clock request db = (.ok (reservedRow now request),
      { work with
        sandboxPayouts := work.sandboxPayouts ++ [reservedRow now request] }.emitPayout now
          (reservedRow now request)) := by
    simp only [reserveQuote, transaction, taken, checked, written, bind, Except.bind]
    rfl
  have deposited := deposited_upsertBalance upserted
  refine ⟨_, called, ?_, ?_, ?_⟩
  · have balance := deposited.balance request.projectId quote.sourceCurrency
    rw [if_pos ⟨rfl, rfl⟩] at balance
    exact balance
  · intro id row there
    have payouts : work.sandboxPayouts = db.sandboxPayouts := by
      rw [frame]
      rfl
    rw [findPayout] at there
    have looked : lookup (fun row : PayoutRecord => row.id) id
        (work.sandboxPayouts ++ [reservedRow now request]) = some row := by
      rw [payouts, lookup_append_singleton, there]
      rfl
    exact looked
  · intro id other
    have quotes : work.sandboxQuotes = (db.withUsedQuote quote).sandboxQuotes := by rw [frame]
    have looked := findQuote_withUsedQuote found id
    rw [if_neg fun same => other same.symm] at looked
    exact (congrArg (lookup (fun row : QuoteRecord => row.id) id) quotes).trans looked

/-! ## Refunds -/

/-- **A payout that fails gives its amount back.** -/
theorem advancePayout_refunds {db after : Db} {credits : List Credit} (ledger : Ledger db credits)
    {now : DateTime} {row payout : PayoutRecord} {quote : QuoteRecord}
    (found : db.findPayout row.id = some row) (priced : db.findQuote row.quoteId = some quote)
    (called : advancePayout now row.id .failed db = (.ok (payout, true), after)) :
    after.balanceOf quote.projectId quote.sourceCurrency =
      db.balanceOf quote.projectId quote.sourceCurrency + quote.sourceMinor := by
  cases advancePayout_advanced called with
  | advanced current there legal payout work written =>
      cases there.symm.trans found
      obtain ⟨-, refunded, balance, rfl⟩ := writeAdvance_eq_ok written
      obtain ⟨owed, same, -, -, opened⟩ := ledger.quoted row (lookup_some found).1
      cases same.symm.trans priced
      have deposited := deposited_writeAdvance balance priced opened
      have moved := deposited.balance quote.projectId quote.sourceCurrency
      rw [if_pos ⟨rfl, rfl⟩, if_pos rfl] at moved
      exact moved

end Db

end Safrod

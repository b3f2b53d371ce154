import Safrod.Api.PayoutProgress

/-!
# Stored quotes were priced

Every stored quote is one that `quote` gave for its currencies and its amount
(`priced_of_reachable`), so its amount of bitcoin is positive and one that can
exist, and a second quote for the same currencies and amount is given as well.
-/

set_option autoImplicit false

namespace Safrod

open Table Db

/-- What `quote` gave for the currencies and the amount of a row. -/
structure Priced (row : QuoteRecord) (source target : Currency) (priced : QuoteCalc) : Prop where
  sourceCurrency : row.sourceCurrency = source.code
  given : quote source target row.sourceMinor.toNat = .ok priced
  sourceMinor : 0 < row.sourceMinor
  btcAmountMsat : row.btcAmountMsat = priced.btcAmountMsat

/-- A used quote keeps its price. -/
theorem Priced.used {row : QuoteRecord} {source target : Currency} {priced : QuoteCalc}
    (price : Priced row source target priced) : Priced (usedRow row) source target priced :=
  ⟨price.sourceCurrency, price.given, price.sourceMinor, price.btcAmountMsat⟩

theorem Priced.amount {row : QuoteRecord} {source target : Currency} {priced : QuoteCalc}
    (price : Priced row source target priced) :
    0 < row.btcAmountMsat ∧ row.btcAmountMsat ≤ (maxSats * 1_000 : ℕ) := by
  have quoted := quoted_of_quote price.given
  rw [price.btcAmountMsat]
  exact ⟨Int.natCast_pos.mpr quoted.btcPositive, Int.ofNat_le.mpr quoted.btcWithin⟩

/-- The amount of a payment is the one of the quote. -/
theorem Priced.asU64 {row : QuoteRecord} {source target : Currency} {priced : QuoteCalc}
    (price : Priced row source target priced) :
    (asU64 row.btcAmountMsat : ℤ) = row.btcAmountMsat := by
  obtain ⟨positive, within⟩ := price.amount
  simp only [maxSats] at within
  rw [Safrod.asU64]
  omega

/-- A payment is asked for no more than the supply. -/
theorem Priced.within {row : QuoteRecord} {source target : Currency} {priced : QuoteCalc}
    (price : Priced row source target priced) {payoutId invoice : String} (amount : ℕ)
    (asked : (settlementRequest payoutId invoice row).amountMsat = some amount) :
    amount ≤ maxSats * 1_000 := by
  obtain ⟨-, within⟩ := price.amount
  have same := price.asU64
  cases asked
  omega

theorem newQuote_priced {request : QuoteRequest} {projectId : String} {clock : DateTime}
    {new : NewQuote} (made : request.newQuote projectId clock = .ok new) (now : DateTime)
    (id : String) : ∃ source target priced, Priced (quoteRow now id new) source target priced := by
  obtain ⟨source, -, made⟩ := Except.exists_of_bind_eq_ok made
  obtain ⟨target, -, made⟩ := Except.exists_of_bind_eq_ok made
  obtain ⟨priced, given, made⟩ := Except.exists_of_bind_eq_ok made
  have given := Except.eq_ok_of_mapError_eq_ok given
  cases made
  refine ⟨source, target, priced, rfl, ?_, ?_, rfl⟩
  · exact given
  · exact Int.natCast_pos.mpr (quoted_of_quote given).sourcePositive

/-- What a step does to the table of quotes. -/
inductive QuotesServed (rows : List QuoteRecord) : List QuoteRecord → Prop where
  | same : QuotesServed rows rows
  | used (quote : QuoteRecord) :
      QuotesServed rows (updateWhere (fun row => row.id = quote.id) usedRow rows)
  | inserted (row : QuoteRecord) (source target : Currency) (priced : QuoteCalc)
      (price : Priced row source target priced) : QuotesServed rows (rows ++ [row])

theorem Proceeds.quotes {env : Env} {db : Db} {projectId : String} {origin : Origin}
    {phase : PayoutPhase} {action : PayoutAction} {outcome : RouteOutcome}
    (proceeds : Proceeds env db projectId origin phase action outcome) :
    QuotesServed db.sandboxQuotes outcome.db.sandboxQuotes := by
  cases proceeds with
  | reserved key request scenario now clock payoutId payout after called =>
      rcases reserveQuote_cases called with ⟨⟨error, wrong⟩, -⟩ | ⟨quote, row, -, -, written, same⟩
      · cases wrong
      · obtain ⟨-, -, work, -, rfl⟩ := writeReservation_eq_ok written
        exact .used quote
  | advanced _ _ payout next now row changed after target called =>
      rw [PayoutPhase.advanced_db]
      cases advancePayout_advanced called with
      | repeated current found same => exact .same
      | advanced current found legal payout work written =>
          obtain ⟨-, work, -, rfl⟩ := writeAdvance_eq_ok written
          exact .same
  | attached _ done payment now after called =>
      rcases attachPaymentToPayout_cases called with rfl | rfl
      · exact .same
      · exact .same
  | fetched _ done payout found =>
      rw [conclude_db]
      exact .same
  | _ => exact .same

theorem Served.quotes {env : Env} {service next : Service} {action : ServiceAction}
    (served : Served env service action next) :
    QuotesServed service.db.sandboxQuotes next.db.sandboxQuotes := by
  cases served with
  | engine slot action outcome free acted =>
      have same := (acted_of_act acted).sameSandbox.quotes
      exact (congrArg (QuotesServed _) same).mpr .same
  | paid slot projectId origin done action outcome route here acted after =>
      have same := (acted_of_act acted).sameSandbox.quotes
      exact (congrArg (QuotesServed _) same).mpr .same
  | proceeded slot action projectId origin phase outcome here proceeds => exact proceeds.quotes
  | performed action call engine own =>
      cases sandbox : call.isSandbox with
      | false =>
          have same := (perform_sameSandbox sandbox service.db).quotes
          exact (congrArg (QuotesServed _) same).mpr .same
      | true =>
          rcases own sandbox with
            ⟨now, clock, id, projectId, request, new, rfl, made⟩ | ⟨projectId, currency, minor, rfl⟩
          · obtain ⟨source, target, priced, price⟩ := newQuote_priced made now id
            cases ended : insertQuote now id new service.db with
            | mk answer after =>
                simp only [Service.db, perform] at ended ⊢
                rw [ended]
                cases insertQuote_inserted ended with
                | inserted positive idFree => exact .inserted _ source target priced price
                | refused error => exact .same
          · cases ended : creditSandboxBalance projectId currency minor service.db with
            | mk answer after =>
                simp only [Service.db, perform] at ended ⊢
                rw [ended]
                rcases creditSandboxBalance_cases ended with ⟨-, rfl⟩ | ⟨-, written⟩
                · exact .same
                · rw [upsertBalance_eq written]
                  exact .same
  | _ => exact .same

/-- **Every stored quote was priced.** -/
theorem priced_of_reachable {env : Env} {service : Service}
    (reached : (payouts env).Reachable service) :
    ∀ row ∈ service.db.sandboxQuotes, ∃ source target priced, Priced row source target priced := by
  refine reached.invariant (fun service => ∀ row ∈ service.db.sandboxQuotes,
    ∃ source target priced, Priced row source target priced) ?_ ?_
  · rintro _ rfl
    exact fun _ member => absurd member List.not_mem_nil
  · intro service action next earlier priced step row member
    have quotes := (served_of_step step).quotes
    generalize next.db.sandboxQuotes = rows at quotes member
    cases quotes with
    | same => exact priced row member
    | used quote =>
        obtain ⟨old, there, rfl⟩ := mem_updateWhere.mp member
        obtain ⟨source, target, given, price⟩ := priced old there
        refine ⟨source, target, given, ?_⟩
        split
        · exact price.used
        · exact price
    | inserted new source target given price =>
        rcases List.mem_append.mp member with old | fresh
        · exact priced row old
        · cases List.mem_singleton.mp fresh
          exact ⟨source, target, given, price⟩

end Safrod

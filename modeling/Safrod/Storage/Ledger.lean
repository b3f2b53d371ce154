import Safrod.Storage.Sandbox

/-!
# The simulated ledger

What the sandbox tables mean: a balance is what was credited to it, less the
source amounts of the payouts that hold a part of it (`reservedMinor`). `Ledger`
is the invariant, and each of the four operations keeps it:
`Ledger.credited`, `Ledger.quoted`, `Ledger.reserved` and `Ledger.advanced`.
-/

set_option autoImplicit false

namespace Safrod

open Table

/-- A credit that succeeded. -/
structure Credit where
  projectId : String
  currency : String
  minor : ℕ
  deriving DecidableEq

/-- The sum of the credits of a project in a currency. -/
def creditedMinor (credits : List Credit) (projectId currency : String) : ℤ :=
  (credits.map fun credit =>
    if credit.projectId = projectId ∧ credit.currency = currency then (credit.minor : ℤ) else 0).sum

namespace Db

/-- What a payout holds of a balance: the source amount of its quote, unless the
payout failed. -/
def heldMinor (db : Db) (projectId currency : String) (payout : PayoutRecord) : ℤ :=
  match db.findQuote payout.quoteId with
  | none => 0
  | some quote =>
      if payout.status ≠ .failed ∧ payout.projectId = projectId ∧ quote.sourceCurrency = currency
      then quote.sourceMinor else 0

/-- The sum of `source_minor` over the payouts of a project and source currency
that are not failed. -/
def reservedMinor (db : Db) (projectId currency : String) : ℤ :=
  (db.sandboxPayouts.map (db.heldMinor projectId currency)).sum

/-- There is a row for the balance. -/
def Opened (db : Db) (projectId currency : String) : Prop :=
  ∃ row, lookup balanceKey (projectId, currency) db.sandboxBalances = some row

structure Ledger (db : Db) (credits : List Credit) : Prop where
  balanceKeys : KeyUnique balanceKey db.sandboxBalances
  quoteIds : KeyUnique (fun quote : QuoteRecord => quote.id) db.sandboxQuotes
  payoutIds : KeyUnique (fun payout : PayoutRecord => payout.id) db.sandboxPayouts
  payoutQuotes : KeyUnique (fun payout : PayoutRecord => payout.quoteId) db.sandboxPayouts
  positive : ∀ quote ∈ db.sandboxQuotes, 0 < quote.sourceMinor
  /-- A payout refers to a used quote of its project, and its balance has a row. -/
  quoted : ∀ payout ∈ db.sandboxPayouts, ∃ quote, db.findQuote payout.quoteId = some quote ∧
    quote.projectId = payout.projectId ∧ quote.status = .used ∧
    db.Opened quote.projectId quote.sourceCurrency
  used : ∀ quote ∈ db.sandboxQuotes, quote.status = .used →
    ∃ payout ∈ db.sandboxPayouts, payout.quoteId = quote.id
  nonneg : ∀ projectId currency, 0 ≤ db.balanceOf projectId currency
  balance : ∀ projectId currency, db.balanceOf projectId currency =
    creditedMinor credits projectId currency - db.reservedMinor projectId currency

/-! ## Balances -/

theorem balanceOf_eq_of_lookup {db : Db} {projectId currency : String} {row : BalanceRow}
    (found : lookup balanceKey (projectId, currency) db.sandboxBalances = some row) :
    db.balanceOf projectId currency = row.minor := by
  rw [balanceOf, found]

/-- What is written to the row of one balance. -/
structure Deposited (projectId currency : String) (minor : ℤ) (tx after : Db) : Prop where
  keys : KeyUnique balanceKey tx.sandboxBalances → KeyUnique balanceKey after.sandboxBalances
  opened : after.Opened projectId currency
  others : ∀ otherProject otherCurrency, tx.Opened otherProject otherCurrency →
    after.Opened otherProject otherCurrency
  balance : ∀ otherProject otherCurrency, after.balanceOf otherProject otherCurrency =
    tx.balanceOf otherProject otherCurrency +
      if projectId = otherProject ∧ currency = otherCurrency then minor else 0

theorem deposited_append {projectId currency : String} {minor : ℤ} {tx : Db}
    (missing : lookup balanceKey (projectId, currency) tx.sandboxBalances = none) :
    Deposited projectId currency minor tx
      { tx with sandboxBalances := tx.sandboxBalances ++ [⟨projectId, currency, minor⟩] } := by
  have looked : ∀ key, lookup balanceKey key
      (tx.sandboxBalances ++ [⟨projectId, currency, minor⟩]) =
        (lookup balanceKey key tx.sandboxBalances).or
          (if (projectId, currency) = key then some ⟨projectId, currency, minor⟩ else none) :=
    fun key => lookup_append_singleton key _
  refine ⟨?_, ?_, ?_, ?_⟩
  · intro unique
    exact unique.append_singleton fun old member => lookup_none missing member
  · refine ⟨⟨projectId, currency, minor⟩, ?_⟩
    rw [looked, missing, if_pos rfl]
    rfl
  · rintro otherProject otherCurrency ⟨row, found⟩
    refine ⟨row, ?_⟩
    rw [looked, found]
    rfl
  · intro otherProject otherCurrency
    rw [balanceOf, looked, balanceOf]
    by_cases here : (projectId, currency) = (otherProject, otherCurrency)
    · obtain ⟨rfl, rfl⟩ := Prod.mk.inj here
      simp only [missing, Option.none_or, and_self, if_true, Int.zero_add]
    · have apart : ¬ (projectId = otherProject ∧ currency = otherCurrency) := by
        rintro ⟨rfl, rfl⟩
        exact here rfl
      rw [if_neg here, Option.or_none, if_neg apart, Int.add_zero]

theorem deposited_withMinor {projectId currency : String} {minor : ℤ} {tx : Db} {row : BalanceRow}
    (found : lookup balanceKey (projectId, currency) tx.sandboxBalances = some row) :
    Deposited projectId currency minor tx
      (tx.withMinor projectId currency (row.minor + minor)) := by
  obtain ⟨rfl, rfl⟩ : row.projectId = projectId ∧ row.currency = currency :=
    Prod.mk.inj (lookup_some found).2
  have looked : ∀ other, lookup balanceKey other
      (tx.withMinor row.projectId row.currency (row.minor + minor)).sandboxBalances =
        if (row.projectId, row.currency) = other then some (setMinor (row.minor + minor) row)
        else lookup balanceKey other tx.sandboxBalances :=
    fun other => lookup_updateWhere_key found (setMinor (row.minor + minor)) (fun old => rfl) other
  refine ⟨?_, ?_, ?_, ?_⟩
  · intro unique
    exact unique.update fun old => rfl
  · refine ⟨_, (looked _).trans (if_pos rfl)⟩
  · rintro otherProject otherCurrency ⟨other, there⟩
    by_cases here : (row.projectId, row.currency) = (otherProject, otherCurrency)
    · exact ⟨_, (looked _).trans (if_pos here)⟩
    · exact ⟨other, (looked _).trans ((if_neg here).trans there)⟩
  · intro otherProject otherCurrency
    rw [balanceOf, looked, balanceOf]
    by_cases here : (row.projectId, row.currency) = (otherProject, otherCurrency)
    · obtain ⟨rfl, rfl⟩ := Prod.mk.inj here
      simp only [found, if_true, and_self, setMinor]
    · have apart : ¬ (row.projectId = otherProject ∧ row.currency = otherCurrency) := by
        rintro ⟨rfl, rfl⟩
        exact here rfl
      rw [if_neg here, if_neg apart, Int.add_zero]

theorem deposited_upsertBalance {projectId currency : String} {minor : ℤ} {tx after : Db}
    (written : upsertBalance projectId currency minor tx = .ok after) :
    Deposited projectId currency minor tx after := by
  unfold upsertBalance at written
  split at written
  · rename_i missing
    cases written
    exact deposited_append missing
  · rename_i row found
    obtain ⟨sum, added, rfl⟩ := Except.exists_of_map_eq_ok written
    rw [addBigint_eq_ok added]
    exact deposited_withMinor found

/-! ## Reading the tables of one database with the rows of another -/

/-- The weights of the payouts read their quotes only through these columns. -/
theorem heldMinor_congr {db after : Db} {payout : PayoutRecord}
    (same : (after.findQuote payout.quoteId).map
        (fun quote => (quote.sourceCurrency, quote.sourceMinor)) =
      (db.findQuote payout.quoteId).map fun quote => (quote.sourceCurrency, quote.sourceMinor))
    (projectId currency : String) :
    after.heldMinor projectId currency payout = db.heldMinor projectId currency payout := by
  unfold heldMinor
  cases before : db.findQuote payout.quoteId with
  | none =>
      rw [before, Option.map_none, Option.map_eq_none_iff] at same
      rw [same]
  | some quote =>
      rw [before, Option.map_some, Option.map_eq_some_iff] at same
      obtain ⟨other, found, columns⟩ := same
      obtain ⟨sourceCurrency, sourceMinor⟩ := Prod.mk.inj columns
      rw [found]
      simp only [sourceCurrency, sourceMinor]

/-! ## Credits and quotes -/

theorem creditedMinor_cons (credit : Credit) (credits : List Credit)
    (projectId currency : String) :
    creditedMinor (credit :: credits) projectId currency =
      (if credit.projectId = projectId ∧ credit.currency = currency then (credit.minor : ℤ)
        else 0) + creditedMinor credits projectId currency := by
  simp only [creditedMinor, List.map_cons, List.sum_cons]

/-- **A credit keeps the ledger.** -/
theorem Ledger.credited {db after : Db} {credits : List Credit} (ledger : Ledger db credits)
    {projectId currency : String} {minor : ℕ}
    (written : upsertBalance projectId currency minor db = .ok after) :
    Ledger after (⟨projectId, currency, minor⟩ :: credits) := by
  have deposited := deposited_upsertBalance written
  have frame := upsertBalance_eq written
  have quotes : after.sandboxQuotes = db.sandboxQuotes := by rw [frame]
  have payouts : after.sandboxPayouts = db.sandboxPayouts := by rw [frame]
  have findQuote : ∀ id, after.findQuote id = db.findQuote id := by
    intro id
    rw [Db.findQuote, quotes, Db.findQuote]
  refine ⟨deposited.keys ledger.balanceKeys, ?_, ?_, ?_, ?_, ?_, ?_, ?_, ?_⟩
  · rw [quotes]
    exact ledger.quoteIds
  · rw [payouts]
    exact ledger.payoutIds
  · rw [payouts]
    exact ledger.payoutQuotes
  · rw [quotes]
    exact ledger.positive
  · rw [payouts]
    intro payout member
    obtain ⟨quote, found, project, used, opened⟩ := ledger.quoted payout member
    exact ⟨quote, (findQuote _).trans found, project, used, deposited.others _ _ opened⟩
  · rw [quotes, payouts]
    exact ledger.used
  · intro otherProject otherCurrency
    rw [deposited.balance]
    have before := ledger.nonneg otherProject otherCurrency
    split <;> omega
  · intro otherProject otherCurrency
    have reserved : after.reservedMinor otherProject otherCurrency =
        db.reservedMinor otherProject otherCurrency := by
      rw [reservedMinor, payouts, reservedMinor]
      refine congrArg List.sum (List.map_congr_left fun payout _ => ?_)
      exact heldMinor_congr (by rw [findQuote]) _ _
    rw [deposited.balance, creditedMinor_cons, reserved, ledger.balance]
    dsimp only
    omega

/-- **A new quote keeps the ledger.** -/
theorem Ledger.quoteInserted {db : Db} {credits : List Credit} (ledger : Ledger db credits)
    {row : QuoteRecord} (positive : 0 < row.sourceMinor) (fresh : row.status = .open_)
    (idFree : db.findQuote row.id = none) :
    Ledger { db with sandboxQuotes := db.sandboxQuotes ++ [row] } credits := by
  have kept : ∀ {id quote}, db.findQuote id = some quote →
      findQuote { db with sandboxQuotes := db.sandboxQuotes ++ [row] } id = some quote := by
    intro id quote found
    have looked : findQuote { db with sandboxQuotes := db.sandboxQuotes ++ [row] } id =
        (db.findQuote id).or (if row.id = id then some row else none) :=
      lookup_append_singleton id row
    rw [looked, found]
    rfl
  refine ⟨ledger.balanceKeys, ?_, ledger.payoutIds, ledger.payoutQuotes, ?_, ?_, ?_,
    ledger.nonneg, ?_⟩
  · exact ledger.quoteIds.append_singleton fun _ member => lookup_none idFree member
  · intro quote member
    rcases List.mem_append.mp member with old | new
    · exact ledger.positive quote old
    · rw [List.mem_singleton.mp new]
      exact positive
  · intro payout member
    obtain ⟨quote, found, project, used, opened⟩ := ledger.quoted payout member
    exact ⟨quote, kept found, project, used, opened⟩
  · intro quote member used
    rcases List.mem_append.mp member with old | new
    · exact ledger.used quote old used
    · rw [List.mem_singleton.mp new, fresh] at used
      cases used
  · intro projectId currency
    refine (ledger.balance projectId currency).trans ?_
    have reserved : reservedMinor { db with sandboxQuotes := db.sandboxQuotes ++ [row] } projectId
        currency = db.reservedMinor projectId currency := by
      refine congrArg List.sum (List.map_congr_left fun payout member => ?_)
      obtain ⟨quote, found, -⟩ := ledger.quoted payout member
      exact heldMinor_congr (by rw [kept found, found]) _ _
    rw [reserved]

/-! ## Reservations -/

theorem findQuote_withUsedQuote {db : Db} {quote : QuoteRecord}
    (found : db.findQuote quote.id = some quote) (id : String) :
    (db.withUsedQuote quote).findQuote id =
      if quote.id = id then some (usedRow quote) else db.findQuote id :=
  lookup_updateWhere_key found usedRow (fun _ => rfl) id

/-- **A reservation keeps the ledger.** -/
theorem Ledger.reserved {db after : Db} {credits : List Credit} (ledger : Ledger db credits)
    {now : DateTime} {request : Reservation} {quote : QuoteRecord} {payout : PayoutRecord}
    (member : quote ∈ db.sandboxQuotes) (project : quote.projectId = request.projectId)
    (id : quote.id = request.quoteId)
    (enough : quote.sourceMinor ≤ db.balanceOf request.projectId quote.sourceCurrency)
    (written : writeReservation now request quote db = .ok (payout, after)) :
    Ledger after credits := by
  obtain ⟨rfl, fresh, work, balance, rfl⟩ := writeReservation_eq_ok written
  have deposited := deposited_upsertBalance balance
  have found : db.findQuote quote.id = some quote :=
    ledger.quoteIds.lookup_eq_some.mpr ⟨member, rfl⟩
  have looked := findQuote_withUsedQuote found
  have free : ∀ old ∈ db.sandboxPayouts, old.quoteId ≠ quote.id := by
    intro old there same
    exact fresh old there (.inr (.inl (same.trans id)))
  have weights : ∀ old ∈ db.sandboxPayouts, ∀ projectId currency,
      heldMinor (db.withUsedQuote quote) projectId currency old =
        db.heldMinor projectId currency old := by
    intro old there projectId currency
    refine heldMinor_congr ?_ projectId currency
    rw [looked, if_neg (free old there).symm]
  have weight : ∀ projectId currency,
      heldMinor (db.withUsedQuote quote) projectId currency (reservedRow now request) =
        if request.projectId = projectId ∧ quote.sourceCurrency = currency
        then quote.sourceMinor else 0 := by
    intro projectId currency
    have here : (db.withUsedQuote quote).findQuote (reservedRow now request).quoteId =
        some (usedRow quote) := (looked request.quoteId).trans (if_pos id)
    unfold heldMinor
    rw [here]
    have status : (reservedRow now request).status ≠ .failed := by
      intro same
      cases same
    exact if_congr (and_iff_right status) rfl rfl
  refine ⟨deposited.keys ledger.balanceKeys, ?_, ?_, ?_, ?_, ?_, ?_, ?_, ?_⟩
  · exact ledger.quoteIds.update fun _ => rfl
  · exact ledger.payoutIds.append_singleton fun old there same => fresh old there (.inl same)
  · refine ledger.payoutQuotes.append_singleton fun old there same => ?_
    exact fresh old there (.inr (.inl same))
  · intro other there
    obtain ⟨old, oldMember, rfl⟩ := mem_updateWhere.mp there
    have before := ledger.positive old oldMember
    split
    · exact before
    · exact before
  · intro payout there
    rcases List.mem_append.mp there with old | new
    · obtain ⟨other, otherFound, otherProject, used, opened⟩ := ledger.quoted payout old
      refine ⟨other, ?_, otherProject, used, deposited.others _ _ opened⟩
      exact (looked payout.quoteId).trans ((if_neg (free payout old).symm).trans otherFound)
    · rw [List.mem_singleton.mp new]
      refine ⟨usedRow quote, (looked request.quoteId).trans (if_pos id), project, rfl, ?_⟩
      have opened := deposited.opened
      rw [← project] at opened
      exact opened
  · intro other there used
    rcases mem_updateWhere_key.mp there with ⟨old, oldMember, same, rfl⟩ | ⟨old, apart⟩
    · refine ⟨reservedRow now request, List.mem_append_right _ List.mem_cons_self, ?_⟩
      exact id.symm.trans same.symm
    · obtain ⟨payout, payoutMember, refers⟩ := ledger.used other old used
      exact ⟨payout, List.mem_append_left _ payoutMember, refers⟩
  · intro projectId currency
    refine le_of_le_of_eq ?_ (deposited.balance projectId currency).symm
    have before := ledger.nonneg projectId currency
    change 0 ≤ db.balanceOf projectId currency + _
    split
    · rename_i here
      obtain ⟨rfl, rfl⟩ := here
      omega
    · omega
  · intro projectId currency
    refine (deposited.balance projectId currency).trans ?_
    change db.balanceOf projectId currency + _ = _
    have total : reservedMinor ({ db.withUsedQuote quote with
          sandboxBalances := work.sandboxBalances
          sandboxPayouts := db.sandboxPayouts ++ [reservedRow now request] }.emitPayout now
            (reservedRow now request)) projectId currency =
        db.reservedMinor projectId currency +
          if request.projectId = projectId ∧ quote.sourceCurrency = currency
          then quote.sourceMinor else 0 := by
      have split : reservedMinor ({ db.withUsedQuote quote with
            sandboxBalances := work.sandboxBalances
            sandboxPayouts := db.sandboxPayouts ++ [reservedRow now request] }.emitPayout now
              (reservedRow now request)) projectId currency =
          ((db.sandboxPayouts ++ [reservedRow now request]).map
            (heldMinor (db.withUsedQuote quote) projectId currency)).sum := rfl
      rw [split, List.map_append, List.sum_append, List.map_cons, List.map_nil, List.sum_cons,
        List.sum_nil, weight, Int.add_zero, reservedMinor]
      refine congrArg (· + _) (congrArg List.sum (List.map_congr_left fun old there => ?_))
      exact weights old there projectId currency
    rw [total, ledger.balance]
    split <;> omega

/-! ## Advances -/

/-- A refund pays the source amount into the balance it came from. -/
theorem deposited_refundQuote {quoteId : String} {tx after : Db} {quote : QuoteRecord}
    (written : refundQuote quoteId tx = .ok after) (found : tx.findQuote quoteId = some quote)
    (opened : tx.Opened quote.projectId quote.sourceCurrency) :
    Deposited quote.projectId quote.sourceCurrency quote.sourceMinor tx after := by
  obtain ⟨row, there⟩ := opened
  simp only [refundQuote, found, there] at written
  obtain ⟨sum, added, rfl⟩ := Except.exists_of_map_eq_ok written
  rw [addBigint_eq_ok added]
  exact deposited_withMinor there

/-- The balances after an advance: a failure pays the source amount back. -/
theorem deposited_writeAdvance {db work : Db} {now : DateTime} {current : PayoutRecord}
    {next : PayoutStatus} {quote : QuoteRecord}
    (written : (if next = .failed then
        refundQuote current.quoteId (db.withAdvanced now current.id next)
      else .ok (db.withAdvanced now current.id next)) = .ok work)
    (found : db.findQuote current.quoteId = some quote)
    (opened : db.Opened quote.projectId quote.sourceCurrency) :
    Deposited quote.projectId quote.sourceCurrency
      (if next = .failed then quote.sourceMinor else 0) db work := by
  by_cases failed : next = .failed
  · rw [if_pos failed] at written ⊢
    obtain ⟨keys, opens, others, balance⟩ := deposited_refundQuote written found opened
    exact ⟨keys, opens, others, balance⟩
  · rw [if_neg failed] at written ⊢
    cases written
    refine ⟨fun unique => unique, opened, fun _ _ there => there, ?_⟩
    intro projectId currency
    rw [ite_self, Int.add_zero]
    rfl

/-- **An advance keeps the ledger.** -/
theorem Ledger.advanced {db after : Db} {credits : List Credit} (ledger : Ledger db credits)
    {now : DateTime} {current payout : PayoutRecord} {next : PayoutStatus}
    (found : db.findPayout current.id = some current)
    (legal : current.status.canTransitionTo next = true)
    (written : writeAdvance now current next db = .ok (payout, after)) :
    Ledger after credits := by
  obtain ⟨rfl, work, balance, rfl⟩ := writeAdvance_eq_ok written
  obtain ⟨member, -⟩ := lookup_some found
  obtain ⟨quote, quoteFound, project, used, opened⟩ := ledger.quoted current member
  have deposited := deposited_writeAdvance balance quoteFound opened
  have active : current.status ≠ .failed := by
    intro failed
    rw [failed, PayoutStatus.not_canTransitionTo_of_failed] at legal
    cases legal
  refine ⟨deposited.keys ledger.balanceKeys, ledger.quoteIds, ?_, ?_, ledger.positive, ?_, ?_,
    ?_, ?_⟩
  · exact ledger.payoutIds.update fun _ => rfl
  · exact ledger.payoutQuotes.update fun _ => rfl
  · intro payout there
    obtain ⟨old, oldMember, rfl⟩ := mem_updateWhere.mp there
    obtain ⟨other, otherFound, otherProject, otherUsed, otherOpened⟩ :=
      ledger.quoted old oldMember
    refine ⟨other, ?_, ?_, otherUsed, deposited.others _ _ otherOpened⟩
    · refine Eq.trans ?_ otherFound
      split <;> rfl
    · rw [otherProject]
      split <;> rfl
  · intro other there otherUsed
    obtain ⟨payout, payoutMember, refers⟩ := ledger.used other there otherUsed
    refine ⟨_, mem_updateWhere.mpr ⟨payout, payoutMember, rfl⟩, ?_⟩
    rw [← refers]
    split <;> rfl
  · intro projectId currency
    refine le_of_le_of_eq ?_ (deposited.balance projectId currency).symm
    have before := ledger.nonneg projectId currency
    have positive := ledger.positive quote (lookup_some quoteFound).1
    split
    · split <;> omega
    · omega
  · intro projectId currency
    refine (deposited.balance projectId currency).trans ?_
    have total : reservedMinor ({ db.withAdvanced now current.id next with
          sandboxBalances := work.sandboxBalances }.emitPayout now
            (advancedRow now next current)) projectId currency =
        db.reservedMinor projectId currency - db.heldMinor projectId currency current +
          db.heldMinor projectId currency (advancedRow now next current) :=
      ledger.payoutIds.sum_updateWhere member (advancedRow now next)
        (db.heldMinor projectId currency)
    have before : db.heldMinor projectId currency current =
        if quote.projectId = projectId ∧ quote.sourceCurrency = currency
        then quote.sourceMinor else 0 := by
      unfold heldMinor
      rw [quoteFound, project]
      exact if_congr (and_iff_right active) rfl rfl
    have later : db.heldMinor projectId currency (advancedRow now next current) =
        if next ≠ .failed ∧ quote.projectId = projectId ∧ quote.sourceCurrency = currency
        then quote.sourceMinor else 0 := by
      have same : db.findQuote (advancedRow now next current).quoteId = some quote := quoteFound
      unfold heldMinor
      rw [same, project]
      rfl
    rw [total, before, later, ledger.balance]
    by_cases here : quote.projectId = projectId ∧ quote.sourceCurrency = currency
    · by_cases failed : next = .failed
      · simp only [here, failed, and_self, if_true, ne_eq, not_true, false_and, if_false]
        omega
      · simp only [here, failed, and_self, if_true, ne_eq, not_false_iff, if_false]
        omega
    · simp only [here, and_false, if_false]
      omega

/-! ## Consequences -/

theorem ledger_empty {db : Db} (quotes : db.sandboxQuotes = []) (payouts : db.sandboxPayouts = [])
    (balances : db.sandboxBalances = []) : Ledger db [] := by
  refine ⟨?_, ?_, ?_, ?_, ?_, ?_, ?_, ?_, ?_⟩ <;>
    simp only [KeyUnique, reservedMinor, creditedMinor, balanceOf, lookup, quotes, payouts,
      balances, List.map_nil, List.nodup_nil, List.not_mem_nil, false_implies, implies_true,
      List.find?_nil, List.sum_nil, le_refl, Int.sub_self]

/-- A used quote has exactly one payout, and any other has none. -/
theorem Ledger.used_iff {db : Db} {credits : List Credit} (ledger : Ledger db credits)
    {quote : QuoteRecord} (member : quote ∈ db.sandboxQuotes) :
    quote.status = .used ↔
      db.sandboxPayouts.countP (fun payout => payout.quoteId = quote.id) = 1 := by
  have found : db.findQuote quote.id = some quote :=
    ledger.quoteIds.lookup_eq_some.mpr ⟨member, rfl⟩
  have referred : quote.status = .used ↔ ∃ payout, lookup
      (fun payout : PayoutRecord => payout.quoteId) quote.id db.sandboxPayouts = some payout := by
    constructor
    · intro used
      obtain ⟨payout, payoutMember, refers⟩ := ledger.used quote member used
      exact ⟨payout, ledger.payoutQuotes.lookup_eq_some.mpr ⟨payoutMember, refers⟩⟩
    · rintro ⟨payout, there⟩
      obtain ⟨payoutMember, refers⟩ := lookup_some there
      obtain ⟨other, otherFound, -, used, -⟩ := ledger.quoted payout payoutMember
      rw [refers, found] at otherFound
      cases otherFound
      exact used
  have count : db.sandboxPayouts.countP (fun payout => payout.quoteId = quote.id) =
      db.sandboxPayouts.countP (fun payout => payout.quoteId = quote.id ∧ True) :=
    List.countP_congr fun payout _ => by simp only [and_true]
  rw [referred, count, ledger.payoutQuotes.countP_eq quote.id (fun _ => True)]
  constructor
  · rintro ⟨payout, there⟩
    exact if_pos ⟨payout, there, trivial⟩
  · intro one
    by_contra missing
    rw [if_neg fun ⟨payout, there, _⟩ => missing ⟨payout, there⟩] at one
    cases one

end Db

end Safrod

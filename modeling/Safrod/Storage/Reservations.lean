import Safrod.Library.Machine
import Safrod.Storage.Ledger

/-!
# Concurrent reservations and advances

`reservePayout` and `advancePayout` statement by statement, in any number of open
transactions at once. A transaction sees the committed rows at each of its
statements, takes the row locks the source takes, and waits (has no step) while
another transaction holds one it needs. Its writes become visible when it commits,
and it may be rolled back at any point.

`Consistent` is the invariant: the ledger holds of the committed rows, no row lock
is held twice, and what a transaction read under a lock is still what is stored.
`balances_conserved` is the result.
-/

set_option autoImplicit false

namespace Safrod

open Table

/-! ## Transactions and their locks -/

/-- A row that a transaction locks. -/
inductive RowLock where
  | quote (id : String)
  | balance (projectId currency : String)
  | payout (id : String)
  deriving DecidableEq

/-- Where an open transaction stands. -/
inductive Transaction where
  | idle
  /-- No payout was found under the idempotency key. -/
  | reserving (request : Reservation)
  /-- The quote is locked. -/
  | quoted (request : Reservation) (quote : QuoteRecord)
  /-- The quote and the balance are locked, and the balance suffices. -/
  | funded (request : Reservation) (quote : QuoteRecord)
  /-- The payout is locked, and the move is legal. -/
  | advancing (current : PayoutRecord) (next : PayoutStatus)

namespace Transaction

def locks : Transaction → List RowLock
  | idle | reserving _ => []
  | quoted _ quote => [.quote quote.id]
  | funded request quote => [.quote quote.id, .balance request.projectId quote.sourceCurrency]
  | advancing current _ => [.payout current.id]

/-- What a transaction read under its locks. -/
def Sound (db : Db) : Transaction → Prop
  | idle | reserving _ => True
  | quoted request quote => quote ∈ db.sandboxQuotes ∧ quote.projectId = request.projectId ∧
      quote.id = request.quoteId
  | funded request quote => quote ∈ db.sandboxQuotes ∧ quote.projectId = request.projectId ∧
      quote.id = request.quoteId ∧
      quote.sourceMinor ≤ db.balanceOf request.projectId quote.sourceCurrency
  | advancing current next => db.findPayout current.id = some current ∧
      current.status.canTransitionTo next = true

/-- Writes that leave the locked rows of a transaction alone leave what it read. -/
theorem Sound.frame {db after : Db} {tx : Transaction} (sound : tx.Sound db)
    (quotes : ∀ quote ∈ db.sandboxQuotes, RowLock.quote quote.id ∈ tx.locks →
      quote ∈ after.sandboxQuotes)
    (balances : ∀ projectId currency, RowLock.balance projectId currency ∈ tx.locks →
      after.balanceOf projectId currency = db.balanceOf projectId currency)
    (payouts : ∀ id row, RowLock.payout id ∈ tx.locks → db.findPayout id = some row →
      after.findPayout id = some row) : tx.Sound after := by
  cases tx with
  | idle => trivial
  | reserving request => trivial
  | quoted request quote =>
      obtain ⟨member, project, id⟩ := sound
      exact ⟨quotes quote member List.mem_cons_self, project, id⟩
  | funded request quote =>
      obtain ⟨member, project, id, enough⟩ := sound
      refine ⟨quotes quote member List.mem_cons_self, project, id, ?_⟩
      rw [balances _ _ (List.mem_cons_of_mem _ List.mem_cons_self)]
      exact enough
  | advancing current next =>
      obtain ⟨found, legal⟩ := sound
      exact ⟨payouts current.id current List.mem_cons_self found, legal⟩

end Transaction

/-! ## The machine -/

/-- The committed database, the open transactions, and the credits so far. -/
structure Desk where
  db : Db
  transactions : List Transaction
  credits : List Credit

/-- One statement, or one commit, of one transaction. -/
inductive Statement where
  | credit (projectId currency : String) (minor : ℕ)
  | insertQuote (now : DateTime) (id : String) (new : NewQuote)
  | findPrior (slot : ℕ) (request : Reservation)
  | takeQuote (slot : ℕ) (clock : DateTime)
  | checkBalance (slot : ℕ)
  | writeReservation (slot : ℕ) (now : DateTime)
  | takePayout (slot : ℕ) (payoutId : String) (next : PayoutStatus)
  | writeAdvance (slot : ℕ) (now : DateTime)
  | rollback (slot : ℕ)

namespace Desk

/-- Some transaction holds the lock. -/
def Locked (desk : Desk) (lock : RowLock) : Prop :=
  ∃ tx ∈ desk.transactions, lock ∈ tx.locks

instance (desk : Desk) (lock : RowLock) : Decidable (desk.Locked lock) :=
  inferInstanceAs (Decidable (∃ tx ∈ desk.transactions, lock ∈ tx.locks))

def put (desk : Desk) (slot : ℕ) (tx : Transaction) : Desk :=
  { desk with transactions := desk.transactions.set slot tx }

/-- A commit: the database changes and the transaction ends. -/
def commit (desk : Desk) (slot : ℕ) (db : Db) : Desk :=
  { desk with db := db, transactions := desk.transactions.set slot .idle }

/-- The balance a failed payout is refunded to. -/
def refundLock (desk : Desk) (current : PayoutRecord) (next : PayoutStatus) : Option RowLock :=
  if next = .failed then
    (desk.db.findQuote current.quoteId).map fun quote =>
      .balance quote.projectId quote.sourceCurrency
  else none

def step (desk : Desk) : Statement → Option Desk
  | .credit projectId currency minor =>
      if desk.Locked (.balance projectId currency) then none
      else
        match Db.creditSandboxBalance projectId currency minor desk.db with
        | (.ok (), db) =>
            some { desk with db := db, credits := ⟨projectId, currency, minor⟩ :: desk.credits }
        | (.error _, _) => some desk
  | .insertQuote now id new => some { desk with db := (Db.insertQuote now id new desk.db).2 }
  | .findPrior slot request =>
      match desk.transactions[slot]? with
      | some .idle =>
          -- a prior payout is answered from, and the transaction ends
          match desk.db.findPayoutByKey request.projectId request.idempotencyKey with
          | some _ => some desk
          | none => some (desk.put slot (.reserving request))
      | _ => none
  | .takeQuote slot clock =>
      match desk.transactions[slot]? with
      | some (.reserving request) =>
          if desk.Locked (.quote request.quoteId) then none
          else
            match Db.takeQuote clock request desk.db with
            | .ok quote => some (desk.put slot (.quoted request quote))
            | .error _ => some (desk.put slot .idle)
      | _ => none
  | .checkBalance slot =>
      match desk.transactions[slot]? with
      | some (.quoted request quote) =>
          if desk.Locked (.balance request.projectId quote.sourceCurrency) then none
          else
            match Db.checkBalance request quote desk.db with
            | .ok () => some (desk.put slot (.funded request quote))
            | .error _ => some (desk.put slot .idle)
      | _ => none
  | .writeReservation slot now =>
      match desk.transactions[slot]? with
      | some (.funded request quote) =>
          match Db.writeReservation now request quote desk.db with
          | .ok (_, db) => some (desk.commit slot db)
          | .error _ => some (desk.put slot .idle)
      | _ => none
  | .takePayout slot payoutId next =>
      match desk.transactions[slot]? with
      | some .idle =>
          if desk.Locked (.payout payoutId) then none
          else
            match desk.db.findPayout payoutId with
            | none => some desk
            | some current =>
                if current.status.canTransitionTo next = true then
                  some (desk.put slot (.advancing current next))
                else some desk
      | _ => none
  | .writeAdvance slot now =>
      match desk.transactions[slot]? with
      | some (.advancing current next) =>
          if ∃ lock, desk.refundLock current next = some lock ∧ desk.Locked lock then none
          else
            match Db.writeAdvance now current next desk.db with
            | .ok (_, db) => some (desk.commit slot db)
            | .error _ => some (desk.put slot .idle)
      | _ => none
  | .rollback slot =>
      match desk.transactions[slot]? with
      | some _ => some (desk.put slot .idle)
      | none => none

end Desk

/-- Any number of transactions on a database whose sandbox tables start empty. -/
def reservations : Machine Desk Statement where
  initial desk := desk.db.sandboxQuotes = [] ∧ desk.db.sandboxPayouts = [] ∧
    desk.db.sandboxBalances = [] ∧ desk.credits = [] ∧ ∀ tx ∈ desk.transactions, tx = .idle
  step := Desk.step

/-! ## The invariant -/

namespace Desk

structure Consistent (desk : Desk) : Prop where
  ledger : Db.Ledger desk.db desk.credits
  exclusive : ∀ (first second : ℕ) (tx other : Transaction) (lock : RowLock),
    desk.transactions[first]? = some tx → desk.transactions[second]? = some other →
    lock ∈ tx.locks → lock ∈ other.locks → first = second
  sound : ∀ tx ∈ desk.transactions, tx.Sound desk.db

variable {desk : Desk} {slot : ℕ} {old : Transaction}

/-- Another transaction holds none of the locks of this one. -/
theorem Consistent.apart (consistent : Consistent desk)
    (here : desk.transactions[slot]? = some old) {other : ℕ} {tx : Transaction}
    (there : desk.transactions[other]? = some tx) (different : other ≠ slot) {lock : RowLock}
    (held : lock ∈ old.locks) : lock ∉ tx.locks :=
  fun alsoHeld => different (consistent.exclusive other slot tx old lock there here alsoHeld held)

/-- A transaction goes on: it holds locks it held before, or free ones, and what it
read is stored. -/
theorem Consistent.put (consistent : Consistent desk)
    (here : desk.transactions[slot]? = some old) {new : Transaction} (sound : new.Sound desk.db)
    (locks : ∀ lock ∈ new.locks, lock ∈ old.locks ∨ ¬ desk.Locked lock) :
    Consistent (desk.put slot new) := by
  obtain ⟨inside, -⟩ := List.getElem?_eq_some_iff.mp here
  have fresh : ∀ {other tx lock}, desk.transactions[other]? = some tx → other ≠ slot →
      lock ∈ new.locks → lock ∉ tx.locks := by
    intro other tx lock there different held alsoHeld
    rcases locks lock held with before | free
    · exact consistent.apart here there different before alsoHeld
    · exact free ⟨tx, List.mem_of_getElem? there, alsoHeld⟩
  refine ⟨consistent.ledger, ?_, ?_⟩
  · intro first second tx other lock firstThere secondThere firstHeld secondHeld
    simp only [Desk.put, List.getElem?_set, inside, if_true] at firstThere secondThere
    by_cases firstSlot : slot = first
    · by_cases secondSlot : slot = second
      · exact firstSlot.symm.trans secondSlot
      · rw [if_pos firstSlot] at firstThere
        rw [if_neg secondSlot] at secondThere
        cases firstThere
        exact absurd secondHeld (fresh secondThere (Ne.symm secondSlot) firstHeld)
    · by_cases secondSlot : slot = second
      · rw [if_neg firstSlot] at firstThere
        rw [if_pos secondSlot] at secondThere
        cases secondThere
        exact absurd firstHeld (fresh firstThere (Ne.symm firstSlot) secondHeld)
      · rw [if_neg firstSlot] at firstThere
        rw [if_neg secondSlot] at secondThere
        exact consistent.exclusive first second tx other lock firstThere secondThere firstHeld
          secondHeld
  · intro tx member
    rcases List.mem_or_eq_of_mem_set member with before | rfl
    · exact consistent.sound tx before
    · exact sound

/-- A transaction ends without a trace. -/
theorem Consistent.ended (consistent : Consistent desk)
    (here : desk.transactions[slot]? = some old) : Consistent (desk.put slot .idle) :=
  consistent.put here trivial fun _ held => by cases held

/-- A write outside the open transactions. -/
theorem Consistent.write (consistent : Consistent desk) {db : Db} {credits : List Credit}
    (ledger : Db.Ledger db credits) (sound : ∀ tx ∈ desk.transactions, tx.Sound db) :
    Consistent { desk with db := db, credits := credits } :=
  ⟨ledger, consistent.exclusive, sound⟩

/-- A commit of one transaction. -/
theorem Consistent.commit (consistent : Consistent desk)
    (here : desk.transactions[slot]? = some old) {db : Db} (ledger : Db.Ledger db desk.credits)
    (others : ∀ other tx, desk.transactions[other]? = some tx → other ≠ slot → tx.Sound db) :
    Consistent (desk.commit slot db) := by
  have ended := consistent.ended here
  refine ⟨ledger, ended.exclusive, ?_⟩
  intro tx member
  obtain ⟨other, there⟩ := List.mem_iff_getElem?.mp member
  obtain ⟨inside, -⟩ := List.getElem?_eq_some_iff.mp here
  simp only [Desk.commit, List.getElem?_set, inside, if_true] at there
  by_cases same : slot = other
  · rw [if_pos same] at there
    cases there
    trivial
  · rw [if_neg same] at there
    exact others other tx there (Ne.symm same)

/-! ## What the writes leave alone -/

theorem sound_of_credit {db after : Db} {projectId currency : String} {minor : ℤ}
    (written : Db.upsertBalance projectId currency minor db = .ok after) {tx : Transaction}
    (free : RowLock.balance projectId currency ∉ tx.locks) (sound : tx.Sound db) :
    tx.Sound after := by
  have frame := Db.upsertBalance_eq written
  refine sound.frame ?_ ?_ ?_
  · intro quote member _
    rw [frame]
    exact member
  · intro otherProject otherCurrency held
    rw [(Db.deposited_upsertBalance written).balance, if_neg, Int.add_zero]
    rintro ⟨rfl, rfl⟩
    exact free held
  · intro id row _ found
    rw [frame]
    exact found

theorem sound_of_writeReservation {db after : Db} {now : DateTime} {request : Reservation}
    {quote : QuoteRecord} {payout : PayoutRecord}
    (written : Db.writeReservation now request quote db = .ok (payout, after)) {tx : Transaction}
    (quoteFree : RowLock.quote quote.id ∉ tx.locks)
    (balanceFree : RowLock.balance request.projectId quote.sourceCurrency ∉ tx.locks)
    (sound : tx.Sound db) : tx.Sound after := by
  obtain ⟨rfl, fresh, work, balance, rfl⟩ := Db.writeReservation_eq_ok written
  refine sound.frame ?_ ?_ ?_
  · intro other member held
    refine mem_updateWhere_key.mpr (.inr ⟨member, ?_⟩)
    intro same
    rw [same] at held
    exact quoteFree held
  · intro projectId currency held
    refine ((Db.deposited_upsertBalance balance).balance projectId currency).trans ?_
    rw [if_neg, Int.add_zero]
    · rfl
    · rintro ⟨rfl, rfl⟩
      exact balanceFree held
  · intro id row _ found
    have looked : lookup (fun row : PayoutRecord => row.id) id
        (db.sandboxPayouts ++ [Db.reservedRow now request]) =
          (db.findPayout id).or (if request.payoutId = id then some (Db.reservedRow now request)
            else none) := lookup_append_singleton id _
    rw [found] at looked
    exact looked

theorem sound_of_writeAdvance {db after : Db} {credits : List Credit}
    (ledger : Db.Ledger db credits) {now : DateTime} {current payout : PayoutRecord}
    {next : PayoutStatus} (found : db.findPayout current.id = some current)
    (written : Db.writeAdvance now current next db = .ok (payout, after)) {tx : Transaction}
    (payoutFree : RowLock.payout current.id ∉ tx.locks)
    (balanceFree : ∀ quote, db.findQuote current.quoteId = some quote → next = .failed →
      RowLock.balance quote.projectId quote.sourceCurrency ∉ tx.locks)
    (sound : tx.Sound db) : tx.Sound after := by
  obtain ⟨rfl, work, balance, rfl⟩ := Db.writeAdvance_eq_ok written
  obtain ⟨quote, quoteFound, -, -, opened⟩ := ledger.quoted current (lookup_some found).1
  refine sound.frame ?_ ?_ ?_
  · intro other member _
    exact member
  · intro projectId currency held
    refine ((Db.deposited_writeAdvance balance quoteFound opened).balance projectId
      currency).trans ?_
    by_cases failed : next = .failed
    · rw [if_neg, Int.add_zero]
      rintro ⟨rfl, rfl⟩
      exact balanceFree quote quoteFound failed held
    · rw [if_neg failed, ite_self, Int.add_zero]
  · intro id row held there
    refine (lookup_updateWhere_key found (Db.advancedRow now next) (fun _ => rfl) id).trans ?_
    rw [if_neg]
    · exact there
    · rintro rfl
      exact payoutFree held

/-! ## Every statement keeps the invariant -/

theorem not_held_of_not_locked {lock : RowLock} (free : ¬ desk.Locked lock) {tx : Transaction}
    (member : tx ∈ desk.transactions) : lock ∉ tx.locks :=
  fun held => free ⟨tx, member, held⟩

theorem Consistent.step {next : Desk} (consistent : Consistent desk) (statement : Statement)
    (moved : desk.step statement = some next) : Consistent next := by
  cases statement with
  | credit projectId currency minor =>
      simp only [Desk.step] at moved
      split at moved
      · cases moved
      · rename_i free
        split at moved
        · rename_i db called
          cases moved
          rcases Db.creditSandboxBalance_cases called with ⟨⟨error, wrong⟩, -⟩ | ⟨-, written⟩
          · cases wrong
          · refine consistent.write (consistent.ledger.credited written) ?_
            intro tx member
            exact sound_of_credit written (not_held_of_not_locked free member)
              (consistent.sound tx member)
        · cases moved
          exact consistent
  | insertQuote now id new =>
      simp only [Desk.step] at moved
      cases moved
      cases called : Db.insertQuote now id new desk.db with
      | mk answer after =>
          cases Db.insertQuote_inserted called with
          | refused error => exact consistent
          | inserted positive idFree =>
              refine consistent.write
                (consistent.ledger.quoteInserted ?_ rfl idFree) ?_
              · exact Int.natCast_pos.mpr positive
              · intro tx member
                refine (consistent.sound tx member).frame ?_ ?_ ?_
                · intro quote there _
                  exact List.mem_append_left _ there
                · intro _ _ _
                  rfl
                · intro _ _ _ found
                  exact found
  | findPrior slot request =>
      simp only [Desk.step] at moved
      split at moved
      · rename_i here
        split at moved
        · cases moved
          exact consistent
        · cases moved
          exact consistent.put here trivial fun _ held => by cases held
      · cases moved
  | takeQuote slot clock =>
      simp only [Desk.step] at moved
      split at moved
      · rename_i request here
        split at moved
        · cases moved
        · rename_i free
          split at moved
          · rename_i quote taken
            cases moved
            obtain ⟨member, project, id, -⟩ := Db.takeQuote_eq_ok taken
            refine consistent.put here ⟨member, project, id⟩ ?_
            intro lock held
            rw [List.mem_singleton.mp held, id]
            exact .inr free
          · cases moved
            exact consistent.ended here
      · cases moved
  | checkBalance slot =>
      simp only [Desk.step] at moved
      split at moved
      · rename_i request quote here
        split at moved
        · cases moved
        · rename_i free
          split at moved
          · rename_i checked
            cases moved
            obtain ⟨member, project, id⟩ := consistent.sound _ (List.mem_of_getElem? here)
            refine consistent.put here
              ⟨member, project, id, Db.checkBalance_eq_ok checked⟩ ?_
            intro lock held
            rcases List.mem_cons.mp held with rfl | held
            · exact .inl List.mem_cons_self
            · rw [List.mem_singleton.mp held]
              exact .inr free
          · cases moved
            exact consistent.ended here
      · cases moved
  | writeReservation slot now =>
      simp only [Desk.step] at moved
      split at moved
      · rename_i request quote here
        split at moved
        · rename_i payout db written
          cases moved
          obtain ⟨member, project, id, enough⟩ := consistent.sound _ (List.mem_of_getElem? here)
          refine consistent.commit here
            (consistent.ledger.reserved member project id enough written) ?_
          intro other tx there different
          refine sound_of_writeReservation written ?_ ?_
            (consistent.sound tx (List.mem_of_getElem? there))
          · exact consistent.apart here there different List.mem_cons_self
          · exact consistent.apart here there different (List.mem_cons_of_mem _ List.mem_cons_self)
        · cases moved
          exact consistent.ended here
      · cases moved
  | takePayout slot payoutId next =>
      simp only [Desk.step] at moved
      split at moved
      · rename_i here
        split at moved
        · cases moved
        · rename_i free
          split at moved
          · cases moved
            exact consistent
          · rename_i current found
            split at moved
            · rename_i legal
              cases moved
              obtain ⟨-, rfl⟩ := lookup_some found
              refine consistent.put here ⟨found, legal⟩ ?_
              intro lock held
              rw [List.mem_singleton.mp held]
              exact .inr free
            · cases moved
              exact consistent
      · cases moved
  | writeAdvance slot now =>
      simp only [Desk.step] at moved
      split at moved
      · rename_i current next here
        split at moved
        · cases moved
        · rename_i free
          split at moved
          · rename_i payout db written
            cases moved
            obtain ⟨found, legal⟩ := consistent.sound _ (List.mem_of_getElem? here)
            refine consistent.commit here (consistent.ledger.advanced found legal written) ?_
            intro other tx there different
            refine sound_of_writeAdvance consistent.ledger found written ?_ ?_
              (consistent.sound tx (List.mem_of_getElem? there))
            · exact consistent.apart here there different List.mem_cons_self
            · intro quote quoteFound failed held
              refine free ⟨_, ?_, ⟨tx, List.mem_of_getElem? there, held⟩⟩
              rw [refundLock, if_pos failed, quoteFound]
              rfl
          · cases moved
            exact consistent.ended here
      · cases moved
  | rollback slot =>
      simp only [Desk.step] at moved
      split at moved
      · rename_i here
        cases moved
        exact consistent.ended here
      · cases moved

theorem consistent_of_reachable (reached : reservations.Reachable desk) : Consistent desk := by
  refine reached.invariant Consistent ?_ ?_
  · rintro start ⟨quotes, payouts, balances, credits, idle⟩
    refine ⟨?_, ?_, ?_⟩
    · rw [credits]
      exact Db.ledger_empty quotes payouts balances
    · intro first second tx other lock there _ held _
      rw [idle tx (List.mem_of_getElem? there)] at held
      cases held
    · intro tx member
      rw [idle tx member]
      trivial
  · intro desk statement next _ consistent moved
    exact consistent.step statement moved

/-- **The simulated balances are conserved.** In every state that interleaved
transactions reach, a balance is the sum of its credits less the source amounts
of the payouts of its project and currency that are not failed, no balance is
negative, and a quote is used exactly when one payout refers to it. -/
theorem balances_conserved (reached : reservations.Reachable desk) :
    (∀ projectId currency, desk.db.balanceOf projectId currency =
      creditedMinor desk.credits projectId currency -
        desk.db.reservedMinor projectId currency) ∧
    (∀ row ∈ desk.db.sandboxBalances, 0 ≤ row.minor) ∧
    (∀ quote ∈ desk.db.sandboxQuotes, quote.status = .used ↔
      desk.db.sandboxPayouts.countP (fun payout => payout.quoteId = quote.id) = 1) := by
  have ledger := (consistent_of_reachable reached).ledger
  refine ⟨ledger.balance, ?_, ?_⟩
  · intro row member
    have found : lookup Db.balanceKey (row.projectId, row.currency) desk.db.sandboxBalances =
        some row := ledger.balanceKeys.lookup_eq_some.mpr ⟨member, rfl⟩
    rw [← Db.balanceOf_eq_of_lookup found]
    exact ledger.nonneg row.projectId row.currency
  · intro quote member
    exact ledger.used_iff member

/-- A quote is reserved, the payout fails, and the balance is whole again. -/
def refundedStatements : List Statement := [
  .credit "prj_1" "USD" 100,
  .insertQuote 1 "quo_1" ⟨"prj_1", "USD", "EUR", 60, 55, 920000, 1000, 50⟩,
  .findPrior 0 ⟨"pyt_1", "prj_1", "quo_1", "key", "failure", none⟩,
  .takeQuote 0 2,
  .checkBalance 0,
  .writeReservation 0 3,
  .takePayout 1 "pyt_1" .pending,
  .writeAdvance 1 4,
  .takePayout 0 "pyt_1" .failed,
  .writeAdvance 0 5]

theorem balances_conserved_refunded : ∃ desk, reservations.run ⟨{}, [.idle, .idle], []⟩
      refundedStatements = some desk ∧
    desk.db.balanceOf "prj_1" "USD" =
      creditedMinor desk.credits "prj_1" "USD" - desk.db.reservedMinor "prj_1" "USD" ∧
    desk.db.balanceOf "prj_1" "USD" = 100 := by
  refine ⟨_, rfl, ?_, by decide⟩
  refine (balances_conserved (Machine.reachable_of_run ⟨rfl, rfl, rfl, rfl, ?_⟩
    (show reservations.run ⟨{}, [.idle, .idle], []⟩ refundedStatements = _ from rfl))).1 _ _
  intro tx member
  simpa only [List.mem_cons, List.not_mem_nil, or_false, or_self] using member

/-! ## Calls without interference -/

theorem locked_put {lock : RowLock} {tx : Transaction} (held : (desk.put slot tx).Locked lock) :
    desk.Locked lock ∨ lock ∈ tx.locks := by
  obtain ⟨holder, member, holds⟩ := held
  rcases List.mem_or_eq_of_mem_set member with before | rfl
  · exact .inl ⟨holder, before, holds⟩
  · exact .inr holds

theorem getElem?_put {old tx : Transaction} (here : desk.transactions[slot]? = some old) :
    (desk.put slot tx).transactions[slot]? = some tx := by
  obtain ⟨inside, -⟩ := List.getElem?_eq_some_iff.mp here
  exact List.getElem?_set_self inside

theorem put_put {first second : Transaction} :
    (desk.put slot first).put slot second = desk.put slot second := by
  simp only [Desk.put, List.set_set]

theorem put_commit {tx : Transaction} {db : Db} :
    (desk.put slot tx).commit slot db = desk.commit slot db := by
  simp only [Desk.put, Desk.commit, List.set_set]

/-- `reservePayout` is its statements in one transaction, when nothing comes
between them. -/
theorem reservePayout_run {now clock : DateTime} {request : Reservation} {payout : PayoutRecord}
    {after : Db} (called : Db.reservePayout now clock request desk.db = (.ok (payout, true), after))
    (free : desk.transactions[slot]? = some .idle) (unlocked : ∀ lock, ¬ desk.Locked lock) :
    reservations.run desk [.findPrior slot request, .takeQuote slot clock, .checkBalance slot,
      .writeReservation slot now] = some (desk.commit slot after) := by
  cases Db.reservePayout_reserved called with
  | reserved noPrior quote taken checked _ _ written =>
      have first : reservations.step desk (.findPrior slot request) =
          some (desk.put slot (.reserving request)) := by
        simp only [reservations, Desk.step, free, noPrior]
      have second : reservations.step (desk.put slot (.reserving request))
          (.takeQuote slot clock) = some (desk.put slot (.quoted request quote)) := by
        have quoteFree : ¬ (desk.put slot (.reserving request)).Locked
            (.quote request.quoteId) := by
          intro held
          rcases locked_put held with before | new
          · exact unlocked _ before
          · cases new
        have same : (desk.put slot (.reserving request)).db = desk.db := rfl
        simp only [reservations, Desk.step, getElem?_put free, if_neg quoteFree, same, taken,
          put_put]
      have third : reservations.step (desk.put slot (.quoted request quote))
          (.checkBalance slot) = some (desk.put slot (.funded request quote)) := by
        have balanceFree : ¬ (desk.put slot (.quoted request quote)).Locked
            (.balance request.projectId quote.sourceCurrency) := by
          intro held
          rcases locked_put held with before | new
          · exact unlocked _ before
          · cases List.mem_singleton.mp new
        have same : (desk.put slot (.quoted request quote)).db = desk.db := rfl
        simp only [reservations, Desk.step, getElem?_put free, if_neg balanceFree, same, checked,
          put_put]
      have last : reservations.step (desk.put slot (.funded request quote))
          (.writeReservation slot now) = some (desk.commit slot after) := by
        have same : (desk.put slot (.funded request quote)).db = desk.db := rfl
        simp only [reservations, Desk.step, getElem?_put free, same, written, put_commit]
      rw [Machine.run_cons _ _ first, Machine.run_cons _ _ second, Machine.run_cons _ _ third,
        Machine.run_cons _ _ last]
      rfl

/-- `advancePayout` is its statements in one transaction, when nothing comes
between them. -/
theorem advancePayout_run {now : DateTime} {payoutId : String} {next : PayoutStatus}
    {payout : PayoutRecord} {after : Db}
    (called : Db.advancePayout now payoutId next desk.db = (.ok (payout, true), after))
    (free : desk.transactions[slot]? = some .idle) (unlocked : ∀ lock, ¬ desk.Locked lock) :
    reservations.run desk [.takePayout slot payoutId next, .writeAdvance slot now] =
      some (desk.commit slot after) := by
  cases Db.advancePayout_advanced called with
  | advanced current found legal _ _ written =>
      have first : reservations.step desk (.takePayout slot payoutId next) =
          some (desk.put slot (.advancing current next)) := by
        simp only [reservations, Desk.step, free, if_neg (unlocked _), found, legal, if_true]
      have last : reservations.step (desk.put slot (.advancing current next))
          (.writeAdvance slot now) = some (desk.commit slot after) := by
        have balanceFree : ¬ ∃ lock, (desk.put slot (.advancing current next)).refundLock current
            next = some lock ∧ (desk.put slot (.advancing current next)).Locked lock := by
          rintro ⟨lock, refund, held⟩
          rcases locked_put held with before | new
          · exact unlocked _ before
          · rw [List.mem_singleton.mp new, refundLock] at refund
            split at refund
            · obtain ⟨quote, -, wrong⟩ := Option.map_eq_some_iff.mp refund
              cases wrong
            · cases refund
        have same : (desk.put slot (.advancing current next)).db = desk.db := rfl
        simp only [reservations, Desk.step, getElem?_put free, if_neg balanceFree, same, written,
          put_commit]
      rw [Machine.run_cons _ _ first, Machine.run_cons _ _ last]
      rfl

end Desk

end Safrod

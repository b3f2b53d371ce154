import Safrod.Api.QuotePrices

/-!
# The Bitcoin leg of a succeeded payout

A payout is committed as succeeded before it is paid, and what follows can fail:
the invoice can have expired, the key of the payment can be taken, the payment can
have become final, the request can end early. `Service.KeepsLeg` is what a step
needs so that it leaves no payout behind: it goes on, or the payout has its payment,
or another request is still about to pay it.

`Covered` is the invariant of the runs whose steps all do. It says of every payout
that it is settled or that some request is settling it, and of every payment that a
request holds or a payout names that it is the one of the payout.
-/

set_option autoImplicit false

namespace Safrod

open Table Db

/-! ## The payment of a payout -/

/-- The payment is for the settlement invoice of the payout and the amount of its
quote. -/
def PaysOut (db : Db) (projectId : String) (payout : PayoutRecord) (paymentId : String) : Prop :=
  ∃ invoice quote payment, payout.settlementBolt11 = some invoice ∧
    db.findQuote payout.quoteId = some quote ∧ db.findPayment paymentId = some payment ∧
    payment.projectId = projectId ∧ payment.bolt11 = trim invoice ∧
    payment.amountMsat = quote.btcAmountMsat

/-- The payments of one database in a later one, with their invoices and amounts. -/
def TargetsKept (db after : Db) : Prop :=
  ∀ id payment, db.findPayment id = some payment → ∃ later, after.findPayment id = some later ∧
    later.projectId = payment.projectId ∧ later.bolt11 = payment.bolt11 ∧
    later.amountMsat = payment.amountMsat

theorem Served.targets {env : Env} {service next : Service} {action : ServiceAction}
    (served : Served env service action next) : TargetsKept service.db next.db := by
  intro id payment found
  have changed := rowChanged_of_performed served.performed_db id
  rw [found] at changed
  exact changed.target

theorem PaysOut.lasts {db after : Db} {projectId paymentId : String} {payout payout' : PayoutRecord}
    (pays : PaysOut db projectId payout paymentId) (later : PayoutLater db after)
    (targets : TargetsKept db after) (quoteId : payout'.quoteId = payout.quoteId)
    (invoice : payout'.settlementBolt11 = payout.settlementBolt11) :
    PaysOut after projectId payout' paymentId := by
  obtain ⟨target, quote, payment, settled, priced, found, project, bolt11, amount⟩ := pays
  obtain ⟨quote', priced', kept⟩ := later.quotes _ _ priced
  obtain ⟨payment', found', project', bolt11', amount'⟩ := targets _ _ found
  refine ⟨target, quote', payment', invoice.trans settled, ?_, found', project'.trans project,
    bolt11'.trans bolt11, ?_⟩
  · rw [quoteId]
    exact priced'
  · rw [amount', amount, kept.btcAmountMsat]

/-- A payout that succeeded has its payment, if it needs one. -/
def Db.Settled (db : Db) (id : String) : Prop :=
  ∀ row, db.findPayout id = some row → row.status = .succeeded → row.settlementBolt11 ≠ none →
    row.paymentId ≠ none

/-! ## Requests that settle a payout -/

/-- The payout a request is about to pay, from the commit as succeeded on. -/
def PayoutPhase.settling : PayoutPhase → Option String
  | .succeed payout => some payout.id
  | .price done _ => some done.id
  | .call done _ => some done.id
  | .pay done => some done.id
  | .attach done _ => some done.id
  | _ => none

def Route.settling : Route → Option String
  | .idle => none
  | .payout _ _ phase => phase.settling

/-- The payment a payout request has begun and not attached yet, with its payout. -/
def Route.paying : Route → Task → Option (String × PayoutRecord × String)
  | .payout projectId _ (.attach done payment), _ => some (projectId, done, payment.id)
  | .payout projectId _ (.pay done), .send _ _ phase =>
      phase.payment.map fun paymentId => (projectId, done, paymentId)
  | _, _ => none

/-! ## What a step needs -/

/-- The invoice stands, for the amount that is asked, which is a satoshi or more. -/
def Payable (env : Env) (clock : DateTime) (request : SendRequest) : Prop :=
  ∃ parsed amount, env.parseInvoice clock (trim request.bolt11) = .ok parsed ∧
    request.amountMsat = some amount ∧
    (parsed.amountMsat = none ∨ parsed.amountMsat = some amount) ∧ msatPerSat ≤ amount

/-- A step of `send_payment` comes to a payment. -/
def SendPhase.GoesOn (env : Env) (db : Db) (projectId idempotencyKey : String) :
    SendPhase → TaskAction → Prop
  | .parse request, .parse clock => Payable env clock request
  | .begin_ _ prepared, .begin_ _ id =>
      match db.findPaymentByKey projectId idempotencyKey with
      | some prior => prior.requestHash = prepared.requestHash
      | none => db.findPayment id = none
  | .persist _ payment, .persist _ => ∀ row, db.findPayment payment.id = some row →
      row.status = .pending ∨ row.status.canTransitionTo .pending = true
  | .refuse _ payment _, .refuse _ => ∀ row, db.findPayment payment.id = some row →
      row.status = .failed ∨ row.status.canTransitionTo .failed = true
  | _, _ => True

/-- The digest tells the request from the one that is stored under its key. -/
def SendPhase.Distinguished (db : Db) (projectId idempotencyKey : String) :
    SendPhase → TaskAction → Prop
  | .begin_ _ prepared, .begin_ _ _ => ∀ prior,
      db.findPaymentByKey projectId idempotencyKey = some prior →
      prior.requestHash = prepared.requestHash →
        prior.bolt11 = prepared.bolt11 ∧ prior.amountMsat = prepared.amountMsat
  | _, _ => True

/-- The payout needs the request in `slot` no more. -/
def Service.Spares (service : Service) (slot : ℕ) (id : String) : Prop :=
  service.db.Settled id ∨ ∃ other, other ≠ slot ∧ (service.routes other).settling = some id

/-- A step leaves no payout behind. -/
def Service.KeepsLeg (env : Env) (service : Service) : ServiceAction → Prop
  | .crash => ∀ slot id, (service.routes slot).settling = some id → service.db.Settled id
  | .payout slot .cancel => ∀ id, (service.routes slot).settling = some id → service.Spares slot id
  | .payout slot (.pay action) =>
      match service.routes slot, service.world.tasks slot with
      | .payout _ _ (.pay done), .send projectId idempotencyKey phase =>
          (phase.GoesOn env service.db projectId idempotencyKey action ∨
            service.Spares slot done.id) ∧
          phase.Distinguished service.db projectId idempotencyKey action
      | _, _ => True
  | _ => True

/-! ## Steps outside the engine -/

theorem conclude_settling (db : Db) (projectId : String) (origin : Origin)
    (payout : PayoutRecord) : (conclude db projectId origin payout).route.settling = none := by
  cases origin <;> rfl

/-- What a call leaves settled when it leaves the payout alone. -/
theorem Db.Settled.of_same {db after : Db} {id : String} (settled : db.Settled id)
    (same : after.findPayout id = db.findPayout id) : after.Settled id := by
  intro row found
  exact settled row (same.symm.trans found)

theorem Db.Settled.of_status {db : Db} {id : String} {row : PayoutRecord}
    (found : db.findPayout id = some row) (other : row.status ≠ .succeeded) : db.Settled id := by
  intro row' found' succeeded
  cases found.symm.trans found'
  exact absurd succeeded other

/-- An advance of a succeeded payout to succeeded is no error. -/
theorem advancePayout_succeeded {now : DateTime} {db : Db} {id : String} {row : PayoutRecord}
    (found : db.findPayout id = some row) (succeeded : row.status = .succeeded) :
    advancePayout now id .succeeded db = (.ok (row, false), db) := by
  simp only [advancePayout, transaction, found, fetchOne, bind, Except.bind, succeeded, if_true]
  rfl

/-- A quote of a stored payout is there for the price of the payment. -/
theorem RouteSound.price_found {db : Db} {credits : List Credit} (ledger : Ledger db credits)
    {projectId invoice : String} {origin : Origin} {done : PayoutRecord}
    (sound : RouteSound db projectId origin (.price done invoice)) :
    ∃ quote, db.getQuote projectId done.quoteId = .ok quote := by
  obtain ⟨row, found, project, quoteId, -⟩ := sound.stored done rfl
  obtain ⟨quote, priced, same, -⟩ := ledger.quoted row (lookup_some found).1
  rw [quoteId] at priced
  refine ⟨quote, (getQuote_eq_ok ledger.quoteIds).mpr ⟨priced, ?_⟩⟩
  rw [same, project]

/-- The payment a request has begun can be attached. -/
theorem RouteSound.attaches {db : Db} {projectId : String} {origin : Origin}
    {done : PayoutRecord} {payment : PaymentRecord}
    (sound : RouteSound db projectId origin (.attach done payment)) (now : DateTime) :
    ∃ after, attachPaymentToPayout now done.id payment.id db = (.ok (), after) := by
  obtain ⟨hash, row, found, -⟩ := sound.settles
  have stored : ¬ ((db.findPayout done.id).isSome ∧ (db.findPayment payment.id).isNone) := by
    rw [found]
    exact fun both => Bool.noConfusion both.2
  simp only [attachPaymentToPayout, transaction, if_neg stored]
  exact ⟨_, rfl⟩

/-- A request that is about to pay a payout and still moves it makes it succeed. -/
theorem PayoutPhase.succeed_of_settling {phase : PayoutPhase} {payout : PayoutRecord}
    {next : PayoutStatus} {id : String} (target : phase.advances = some (payout, next))
    (here : phase.settling = some id) :
    phase = .succeed payout ∧ next = .succeeded ∧ payout.id = id := by
  cases phase with
  | succeed payout =>
      cases target
      cases here
      exact ⟨rfl, rfl, rfl⟩
  | begin_ scenario payout | finish payout next => cases here
  | _ => cases target

/-- A step of a payout request that is about to pay a payout goes on, unless it
leaves the payout settled. -/
theorem Proceeds.settling {env : Env} {db : Db} {credits : List Credit} (ledger : Ledger db credits)
    {projectId : String} {origin : Origin} {phase : PayoutPhase} {action : PayoutAction}
    {outcome : RouteOutcome} (proceeds : Proceeds env db projectId origin phase action outcome)
    (sound : RouteSound db projectId origin phase) {id : String}
    (here : phase.settling = some id) :
    outcome.db.Settled id ∨ outcome.route.settling = some id := by
  cases proceeds with
  | refused _ _ action error reason =>
      left
      cases reason with
      | advance _ _ payout next now error target called =>
          obtain ⟨rfl, rfl, rfl⟩ := PayoutPhase.succeed_of_settling target here
          obtain ⟨row, found, -⟩ := sound.stored payout rfl
          refine .of_status found fun succeeded => ?_
          rw [advancePayout_succeeded found succeeded] at called
          cases called
      | price _ done invoice error missing =>
          obtain ⟨quote, found⟩ := sound.price_found ledger
          rw [found] at missing
          cases missing
      | attach _ done payment now error called =>
          obtain ⟨after, attached⟩ := sound.attaches now
          rw [attached] at called
          cases called
      | _ => cases here
  | advanced _ _ payout next now row changed after target called =>
      rw [PayoutPhase.advanced_db]
      obtain ⟨rfl, rfl, rfl⟩ := PayoutPhase.succeed_of_settling target here
      obtain ⟨status, found, -, current, before, -, kept⟩ := advancePayout_ok called
      obtain ⟨stored, found', -, -, settlement, -⟩ := sound.stored payout rfl
      cases found'.symm.trans before
      simp only [PayoutPhase.advanced]
      split
      · rename_i free
        left
        intro row' again _ needs
        cases found.symm.trans again
        exact absurd ((kept.settlementBolt11.trans settlement).trans free) needs
      · exact .inr (congrArg some (lookup_some found).2)
  | priced _ done invoice quote found => exact .inr here
  | attached _ done payment now after called =>
      left
      cases here
      intro row found _ _
      have looked := attachPaymentToPayout_ok called done.id
      rw [looked] at found
      obtain ⟨old, there, rfl⟩ := Option.map_eq_some_iff.mp found
      rw [if_pos (lookup_some there).2]
      exact Option.some_ne_none payment.id
  | _ => cases here

/-- A step of a payout request leaves the settled payouts settled, unless it goes on
to pay one. -/
theorem Proceeds.settled {env : Env} {db : Db} {projectId : String} {origin : Origin}
    {phase : PayoutPhase} {action : PayoutAction} {outcome : RouteOutcome}
    (proceeds : Proceeds env db projectId origin phase action outcome)
    (finishing : ∀ payout next, phase = .finish payout next → next = .failed ∨ next = .unknown)
    {id : String} (settled : db.Settled id) : outcome.db.Settled id ∨ phase.settling = some id := by
  cases proceeds with
  | reserved key request scenario now clock payoutId payout after called =>
      left
      obtain ⟨rfl, -, -, added⟩ := reserveQuote_ok called
      intro row found
      rw [findPayout, added, lookup_append_singleton, Option.or_eq_some_iff] at found
      rcases found with old | ⟨-, new⟩
      · exact settled row old
      · split at new
        · cases new
          exact fun succeeded => PayoutStatus.noConfusion succeeded
        · cases new
  | advanced _ _ payout next now row changed after target called =>
      rw [PayoutPhase.advanced_db]
      obtain ⟨status, found, others, -⟩ := advancePayout_ok called
      by_cases here : id = payout.id
      · subst here
        cases phase with
        | begin_ scenario payout =>
            cases target
            exact .inl (.of_status found (by rw [status]; decide))
        | finish payout next =>
            cases target
            refine .inl (.of_status found ?_)
            rcases finishing payout next rfl with rfl | rfl <;> rw [status] <;> decide
        | succeed payout =>
            cases target
            exact .inr rfl
        | _ => cases target
      · exact .inl (settled.of_same (others id here))
  | attached _ done payment now after called =>
      left
      intro row found succeeded needs
      rw [attachPaymentToPayout_ok called] at found
      obtain ⟨old, there, rfl⟩ := Option.map_eq_some_iff.mp found
      split at succeeded
      · rename_i here
        rw [if_pos here]
        exact Option.some_ne_none payment.id
      · rename_i other
        rw [if_neg other] at needs ⊢
        exact settled old there succeeded needs
  | fetched _ done payout found =>
      left
      rw [conclude_db]
      exact settled
  | _ => exact .inl settled

/-! ## Steps of `send_payment` -/

/-- The payment of a prepared request is the one of the payout. -/
theorem paysOut_of_prepared {env : Env} {db : Db} {projectId invoice : String} {clock : DateTime}
    {done : PayoutRecord} {quote : QuoteRecord} {prepared : Prepared} {row : PaymentRow}
    (settled : done.settlementBolt11 = some invoice)
    (priced : db.findQuote done.quoteId = some quote)
    (amount : (asU64 quote.btcAmountMsat : ℤ) = quote.btcAmountMsat)
    (prepares : prepare env clock (settlementRequest done.id invoice quote) = .ok prepared)
    (found : db.findPayment row.id = some row) (project : row.projectId = projectId)
    (bolt11 : row.bolt11 = prepared.bolt11) (paid : row.amountMsat = prepared.amountMsat) :
    PaysOut db projectId done row.id := by
  obtain ⟨trimmed, given⟩ := prepare_target prepares
  refine ⟨invoice, quote, row, settled, priced, found, project, bolt11.trans trimmed, ?_⟩
  rw [paid, given _ rfl, amount]

/-- What `send_payment` goes on with, or returns, is the payment of the payout. -/
theorem Acted.paysOut {env : Env} {db : Db} {log : List Entry} {projectId key invoice : String}
    {done : PayoutRecord} {quote : QuoteRecord} {phase : SendPhase} {action : TaskAction}
    {outcome : Outcome} (acted : Acted env db (.send projectId key phase) action outcome)
    (later : PayoutLater db outcome.db) (targets : TargetsKept db outcome.db)
    (keyed : PaymentKeys db.outgoingPayments)
    (sound : Task.Sound env db log (.send projectId key phase))
    (settled : done.settlementBolt11 = some invoice)
    (priced : db.findQuote done.quoteId = some quote)
    (amount : (asU64 quote.btcAmountMsat : ℤ) = quote.btcAmountMsat)
    (sends : phase.SendsFor env (settlementRequest done.id invoice quote))
    (begun : ∀ paymentId, phase.payment = some paymentId → PaysOut db projectId done paymentId)
    (distinguished : phase.Distinguished db projectId key action) :
    (∀ later paymentId, outcome.task = .send projectId key later →
      later.payment = some paymentId → PaysOut outcome.db projectId done paymentId) ∧
    ∀ sent, Entry.returned projectId key (.ok sent) ∈ outcome.entries →
      PaysOut outcome.db projectId done sent.payment.id := by
  have lasts : ∀ paymentId, phase.payment = some paymentId →
      PaysOut outcome.db projectId done paymentId :=
    fun paymentId carried => (begun paymentId carried).lasts later targets rfl rfl
  have stops : outcome.task = .idle → ∀ later paymentId, outcome.task = .send projectId key later →
      later.payment = some paymentId → PaysOut outcome.db projectId done paymentId := by
    intro idle later paymentId goesOn
    rw [idle] at goesOn
    cases goesOn
  cases acted with
  | parseFailed _ _ _ clock error failed =>
      refine ⟨stops rfl, fun sent member => ?_⟩
      simp only [List.mem_singleton, Entry.returned.injEq, reduceCtorEq, and_false] at member
  | parsed _ _ _ clock prepared prepares =>
      refine ⟨?_, fun sent member => absurd member List.not_mem_nil⟩
      rintro _ paymentId ⟨⟩ carried
      cases carried
  | beginFailed _ _ _ prepared now id error after call =>
      refine ⟨stops rfl, fun sent member => ?_⟩
      simp only [List.mem_singleton, Entry.returned.injEq, reduceCtorEq, and_false] at member
  | begun _ _ _ prepared now id payment after call =>
      refine ⟨?_, fun sent member => ?_⟩
      · rintro _ paymentId ⟨⟩ carried
        cases carried
        obtain ⟨clock, prepares⟩ := sends.2
        cases beginPayment_begun call with
        | inserted fits positive keyFree idFree =>
            have found : (db.withPayment (createdRow now
                (prepared.newPayment id projectId key))).findPayment id =
                some (createdRow now (prepared.newPayment id projectId key)) :=
              (findPayment_begun db idFree id).trans (if_pos rfl)
            exact paysOut_of_prepared settled priced amount prepares found rfl rfl rfl
      · simp only [List.mem_cons, reduceCtorEq, List.not_mem_nil, or_self] at member
  | replayed _ _ _ prepared now id payment after call =>
      refine ⟨stops rfl, fun sent member => ?_⟩
      simp only [List.mem_singleton, Entry.returned.injEq, true_and, Except.ok.injEq] at member
      subst member
      obtain ⟨clock, prepares⟩ := sends.2
      cases beginPayment_begun call with
      | existing row found same =>
          obtain ⟨there, named⟩ := lookup_some found
          obtain ⟨bolt11, paid⟩ := distinguished row found same
          exact paysOut_of_prepared settled priced amount prepares
            (keyed.ids.lookup_eq_some.mpr ⟨there, rfl⟩) (Prod.mk.inj named).1 bolt11 paid
  | persistFailed _ _ prepared payment now error after call =>
      refine ⟨stops rfl, fun sent member => ?_⟩
      simp only [List.mem_singleton, Entry.returned.injEq, reduceCtorEq, and_false] at member
  | persisted _ _ prepared payment now pending after call =>
      refine ⟨?_, fun sent member => ?_⟩
      · rintro _ paymentId ⟨⟩ carried
        exact lasts paymentId carried
      · simp [storedBy] at member
  | accepted _ _ prepared payment pending nodeId =>
      refine ⟨stops rfl, fun sent member => ?_⟩
      simp only [List.mem_cons, Entry.returned.injEq, true_and, Except.ok.injEq, reduceCtorEq,
        List.not_mem_nil, or_self, or_false] at member
      subst member
      exact sound.2.1 ▸ lasts payment.id rfl
  | refused _ _ prepared payment pending error =>
      refine ⟨?_, fun sent member => ?_⟩
      · rintro _ paymentId ⟨⟩ carried
        exact lasts paymentId carried
      · simp only [List.mem_singleton, reduceCtorEq] at member
  | failFailed _ _ prepared payment refusedWith now error after call =>
      refine ⟨stops rfl, fun sent member => ?_⟩
      simp only [List.mem_singleton, Entry.returned.injEq, reduceCtorEq, and_false] at member
  | failed _ _ prepared payment refusedWith now failed after call =>
      refine ⟨stops rfl, fun sent member => ?_⟩
      have same : sent = ⟨failed.payment, true⟩ := by
        simpa [storedBy] using member
      rw [same, transitionPayment_id call]
      exact lasts payment.id rfl
  | cancelled _ => exact ⟨stops rfl, fun sent member => absurd member List.not_mem_nil⟩

/-- A move of a stored payment to where it may go is no error. -/
theorem transitionPayment_goesOn {db after : Db} {now : DateTime} {id projectId key hash : String}
    {next : PaymentStatus} {resolution : Resolution} {error : StorageError}
    (stored : StoredFor db projectId key hash id) (free : resolution.feeMsat = none)
    (goesOn : ∀ row, db.findPayment id = some row →
      row.status = next ∨ row.status.canTransitionTo next = true)
    (call : transitionPayment now none id next resolution db = (.error error, after)) : False := by
  obtain ⟨row, found, -⟩ := stored
  cases transitionPayment_moved call with
  | missing absent =>
      rw [found] at absent
      cases absent
  | illegal row' found' illegal =>
      rcases goesOn row' found' with same | legal
      · -- a repeated status is answered before the edge is checked
        have repeated : transitionPayment now none id next resolution db =
            (.ok ⟨row'.toPaymentRecord, false⟩, db) := by
          simp only [transitionPayment, transaction, found', fetchOne, bind, Except.bind,
            claimOutcome, same, if_true]
          rfl
        rw [repeated] at call
        cases call
      · rw [legal] at illegal
        cases illegal
  | outOfRange row' found' legal fee given large =>
      rw [free] at given
      cases given

/-- A payable amount up to the supply is prepared. -/
theorem Payable.prepares {env : Env} {clock : DateTime} {request : SendRequest}
    (payable : Payable env clock request)
    (within : ∀ amount, request.amountMsat = some amount → amount ≤ maxSats * 1_000) :
    ∃ prepared, prepare env clock request = .ok prepared := by
  obtain ⟨parsed, amount, stands, asked, agrees, enough⟩ := payable
  have chosen : chooseAmount parsed.amountMsat request.amountMsat = .ok amount := by
    rcases agrees with none_ | same
    · rw [none_, asked]
      rfl
    · rw [same, asked]
      exact if_neg fun differs => differs rfl
  have ranged : checkRange amount = .ok () := by
    have supply := within amount asked
    refine if_neg (not_or.mpr ⟨?_, ?_⟩) <;>
      simp only [toSatsFloor, msatPerSat, maxSats] at enough supply ⊢ <;> omega
  simp only [prepare, stands, chosen, ranged, Except.mapError, bind, Except.bind]
  exact ⟨_, rfl⟩

/-- A step that goes on returns no error. -/
theorem Acted.goesOn {env : Env} {db : Db} {log : List Entry} {projectId key : String}
    {phase : SendPhase} {action : TaskAction} {outcome : Outcome} {request : SendRequest}
    (acted : Acted env db (.send projectId key phase) action outcome)
    (sound : Task.Sound env db log (.send projectId key phase))
    (sends : phase.SendsFor env request)
    (within : ∀ amount, request.amountMsat = some amount → amount ≤ maxSats * 1_000)
    (goesOn : phase.GoesOn env db projectId key action) (error : ApiError) :
    Entry.returned projectId key (.error error) ∉ outcome.entries := by
  intro member
  cases acted with
  | parseFailed _ _ asked clock error failed =>
      cases sends
      obtain ⟨prepared, prepares⟩ := Payable.prepares goesOn within
      rw [prepares] at failed
      cases failed
  | beginFailed _ _ request prepared now id error after call =>
      obtain ⟨clock, prepares⟩ := sound
      obtain ⟨positive, fits⟩ := prepare_amount prepares
      simp only [SendPhase.GoesOn] at goesOn
      cases beginPayment_begun call with
      | mismatch row found differs =>
          rw [show db.findPaymentByKey projectId key = some row from found] at goesOn
          exact differs goesOn
      | outOfRange invalid error reason =>
          rcases invalid with large | zero
          · exact Nat.not_lt.mpr fits large
          · exact Nat.ne_of_gt positive zero
      | taken keyFree row found =>
          rw [show db.findPaymentByKey projectId key = none from keyFree] at goesOn
          cases goesOn.symm.trans found
  | persistFailed _ _ prepared payment now error after call =>
      exact transitionPayment_goesOn sound rfl goesOn call
  | failFailed _ _ prepared payment refusedWith now error after call =>
      exact transitionPayment_goesOn sound.1 rfl goesOn call
  | persisted | failed =>
      simp [storedBy] at member
  | _ => simp at member

/-! ## The invariant -/

/-- A step outside the engine leaves no payment in the hands of the request. -/
theorem Proceeds.paying {env : Env} {db : Db} {projectId : String} {origin : Origin}
    {phase : PayoutPhase} {action : PayoutAction} {outcome : RouteOutcome}
    (proceeds : Proceeds env db projectId origin phase action outcome) (task : Task) :
    outcome.route.paying task = none := by
  have concluded : ∀ db row, (conclude db projectId origin row).route.paying task = none := by
    intro db row
    cases origin <;> rfl
  cases proceeds with
  | lookedUp key request scenario quote parsed found =>
      simp only [afterLookup]
      split <;> rfl
  | advanced _ _ payout next now row changed after target called =>
      cases phase with
      | begin_ scenario payout => cases scenario <;> rfl
      | succeed payout =>
          simp only [PayoutPhase.advanced]
          split
          · exact concluded after row
          · rfl
      | finish payout next => exact concluded after row
      | _ => cases target
  | fetched _ done payout found => exact concluded db payout
  | found id outcome payout phase fetched decided =>
      rcases (afterFound_ok decided).2 with rfl | rfl <;> rfl
  | _ => rfl

/-- A payment that a payout names was named before, or is attached now. -/
theorem Proceeds.attaching {env : Env} {db : Db} {projectId : String} {origin : Origin}
    {phase : PayoutPhase} {action : PayoutAction} {outcome : RouteOutcome}
    (proceeds : Proceeds env db projectId origin phase action outcome) {id paymentId : String}
    {row : PayoutRecord} (found : outcome.db.findPayout id = some row)
    (named : row.paymentId = some paymentId) :
    (∃ old, db.findPayout id = some old ∧ old.paymentId = some paymentId) ∨
      ∃ done payment, phase = .attach done payment ∧ done.id = id ∧ payment.id = paymentId := by
  cases proceeds with
  | reserved key request scenario now clock payoutId payout after called =>
      left
      obtain ⟨rfl, -, -, added⟩ := reserveQuote_ok called
      rw [findPayout, added, lookup_append_singleton, Option.or_eq_some_iff] at found
      rcases found with old | ⟨-, new⟩
      · exact ⟨row, old, named⟩
      · split at new
        · cases new
          cases named
        · cases new
  | advanced _ _ payout next now row' changed after target called =>
      left
      rw [PayoutPhase.advanced_db] at found
      cases advancePayout_advanced called with
      | repeated current there same => exact ⟨row, found, named⟩
      | advanced current there legal payout' work written =>
          obtain ⟨rfl, balance, -, rfl⟩ := writeAdvance_eq_ok written
          obtain ⟨-, same⟩ := lookup_some there
          rw [← same] at there
          have looked := lookup_updateWhere_key there (advancedRow now next) (fun _ => rfl) id
          by_cases here : current.id = id
          · rw [if_pos here] at looked
            cases looked.symm.trans found
            exact ⟨current, here ▸ there, named⟩
          · rw [if_neg here] at looked
            exact ⟨row, looked.symm.trans found, named⟩
  | attached _ done payment now after called =>
      rw [attachPaymentToPayout_ok called] at found
      obtain ⟨old, there, rfl⟩ := Option.map_eq_some_iff.mp found
      split at named
      · rename_i here
        right
        cases named
        exact ⟨done, payment, rfl, here.symm.trans (lookup_some there).2, rfl⟩
      · exact .inl ⟨old, there, named⟩
  | fetched _ done payout there =>
      rw [conclude_db] at found
      exact .inl ⟨row, found, named⟩
  | _ => exact .inl ⟨row, found, named⟩

/-- What holds of payouts and their payments while every step keeps the leg. -/
structure Covered (service : Service) : Prop where
  settled : ∀ id, service.db.Settled id ∨ ∃ slot, (service.routes slot).settling = some id
  named : ∀ id row paymentId, service.db.findPayout id = some row →
    row.paymentId = some paymentId → PaysOut service.db row.projectId row paymentId
  begun : ∀ slot projectId done paymentId,
    (service.routes slot).paying (service.world.tasks slot) = some (projectId, done, paymentId) →
      PaysOut service.db projectId done paymentId

/-- A step that leaves the payouts and the requests that pay them alone. -/
theorem Covered.quiet {service next : Service} (covered : Covered service)
    (later : PayoutLater service.db next.db) (targets : TargetsKept service.db next.db)
    (same : next.db.sandboxPayouts = service.db.sandboxPayouts)
    (settling : ∀ id slot, (service.routes slot).settling = some id →
      next.db.Settled id ∨ ∃ slot, (next.routes slot).settling = some id)
    (begun : ∀ slot projectId done paymentId,
      (next.routes slot).paying (next.world.tasks slot) = some (projectId, done, paymentId) →
        PaysOut next.db projectId done paymentId ∨
        (service.routes slot).paying (service.world.tasks slot) =
          some (projectId, done, paymentId)) : Covered next := by
  have findPayout : ∀ id, next.db.findPayout id = service.db.findPayout id := by
    intro id
    rw [Db.findPayout, same, Db.findPayout]
  refine ⟨?_, ?_, ?_⟩
  · intro id
    rcases covered.settled id with done | ⟨slot, here⟩
    · exact .inl (done.of_same (findPayout id))
    · exact settling id slot here
  · intro id row paymentId found named
    exact (covered.named id row paymentId ((findPayout id).symm.trans found) named).lasts later
      targets rfl rfl
  · intro slot projectId done paymentId here
    rcases begun slot projectId done paymentId here with pays | before
    · exact pays
    · exact (covered.begun slot projectId done paymentId before).lasts later targets rfl rfl

/-- A request in another slot is still about to pay its payout. -/
theorem settling_update {routes : ℕ → Route} {slot other : ℕ} {route : Route} {id : String}
    (here : (routes other).settling = some id) (apart : other ≠ slot) :
    ∃ slot', (Function.update routes slot route slot').settling = some id :=
  ⟨other, by rw [Function.update_of_ne apart, here]⟩

theorem Covered.served {env : Env} {service next : Service} {action : ServiceAction}
    (covered : Covered service) (sound : service.Sound env)
    (finishing : ∀ slot projectId origin payout next,
      service.routes slot = .payout projectId origin (.finish payout next) →
        next = .failed ∨ next = .unknown)
    (world : service.world.Sound env)
    (keyed : PaymentKeys service.db.outgoingPayments) {credits : List Credit}
    (ledger : Ledger service.db credits)
    (priced : ∀ row ∈ service.db.sandboxQuotes, ∃ source target priced,
      Priced row source target priced)
    (served : Served env service action next) (keeps : service.KeepsLeg env action) :
    Covered next := by
  have later := served.payoutLater
  have targets := served.targets
  cases served with
  | engine slot action outcome free acted =>
      refine covered.quiet later targets (acted_of_act acted).sameSandbox.payouts
        (fun id other here => .inr ⟨other, here⟩) ?_
      intro other projectId done paymentId here
      right
      rw [World.put_tasks] at here
      split at here
      · rename_i same
        subst same
        simp only at here
        rw [free] at here
        cases here
      · exact here
  | started slot action projectId origin free idle =>
      refine covered.quiet later targets rfl ?_ ?_
      · intro id other here
        refine .inr (settling_update here ?_)
        rintro rfl
        rw [free] at here
        cases here
      · intro other project done paymentId here
        rw [Service.put_routes] at here
        split at here
        · cases origin <;> cases here
        · exact .inr here
  | proceeded slot action projectId origin phase outcome here proceeds =>
      have mine := sound.routes slot
      rw [here] at mine
      have finishing : ∀ payout next, phase = .finish payout next →
          next = .failed ∨ next = .unknown := by
        rintro payout next rfl
        exact finishing slot projectId origin payout next here
      have goesOn : ∀ id, phase.settling = some id → outcome.db.Settled id ∨
          ∃ slot',
            (Function.update service.routes slot outcome.route slot').settling = some id := by
        intro id settles
        rcases proceeds.settling ledger mine settles with done | there
        · exact .inl done
        · exact .inr ⟨slot, by rw [Function.update_self, there]⟩
      refine ⟨?_, ?_, ?_⟩
      · intro id
        rcases covered.settled id with done | ⟨other, there⟩
        · rcases proceeds.settled finishing done with after | settles
          · exact .inl after
          · exact goesOn id settles
        · by_cases same : other = slot
          · rw [same, here] at there
            exact goesOn id there
          · exact .inr (settling_update there same)
      · intro id row paymentId found named
        rcases proceeds.attaching found named with
          ⟨old, there, names⟩ | ⟨done, payment, rfl, rfl, rfl⟩
        · obtain ⟨row', found', kept⟩ := later.payouts id old there
          cases found.symm.trans found'
          rw [kept.projectId]
          exact (covered.named id old paymentId there names).lasts later targets kept.quoteId
            kept.settlementBolt11
        · obtain ⟨old, there, project, quoteId, invoice, -⟩ := mine.stored done rfl
          obtain ⟨row', found', kept⟩ := later.payouts done.id old there
          cases found.symm.trans found'
          have pays := covered.begun slot projectId done payment.id (by rw [here]; rfl)
          rw [kept.projectId, project]
          exact pays.lasts later targets (kept.quoteId.trans quoteId)
            (kept.settlementBolt11.trans invoice)
      · intro other project done paymentId there
        rw [Service.put_routes] at there
        split at there
        · rw [proceeds.paying] at there
          cases there
        · exact (covered.begun other project done paymentId there).lasts later targets rfl rfl
  | called slot projectId origin done request here idle =>
      refine covered.quiet later targets rfl ?_ ?_
      · intro id other there
        by_cases same : other = slot
        · rw [same, here] at there
          exact .inr ⟨slot, by rw [Service.putSend_routes, if_pos rfl]; exact there⟩
        · exact .inr (settling_update there same)
      · intro other project paid paymentId there
        rw [Service.putSend_routes] at there
        have tasks := World.put_tasks service.world slot
          ⟨service.db, .send projectId (payoutKey done.id) (.parse request), []⟩ other
        split at there
        · rename_i same
          rw [show (service.putSend slot _ _).world.tasks other = _ from tasks,
            if_pos same] at there
          cases there
        · rename_i apart
          rw [show (service.putSend slot _ _).world.tasks other = _ from tasks,
            if_neg apart] at there
          exact .inr there
  | paid slot projectId origin done action outcome route here acted after =>
      have acted := acted_of_act acted
      obtain ⟨phase, invoice, quote, task, settled, found, sends⟩ :=
        sound.sends slot projectId origin done here
      have taskSound := world.tasks slot
      rw [task] at acted taskSound
      simp only [Service.KeepsLeg, here, task] at keeps
      obtain ⟨goesOn, distinguished⟩ := keeps
      obtain ⟨source, target, given, price⟩ := priced quote (lookup_some found).1
      have sent := sent_of_afterSend acted after
      have begun : ∀ paymentId, phase.payment = some paymentId →
          PaysOut service.db projectId done paymentId := by
        intro paymentId carried
        refine covered.begun slot projectId done paymentId ?_
        rw [here, task, Route.paying, carried]
        rfl
      obtain ⟨continues, returns⟩ := acted.paysOut later targets keyed taskSound settled found
        price.asU64 sends begun distinguished
      refine covered.quiet later targets acted.sameSandbox.payouts ?_ ?_
      · intro id other there
        by_cases same : other = slot
        · rw [same, here] at there
          cases there
          cases sent with
          | goesOn next goesOn =>
              exact .inr ⟨slot, by rw [Service.putSend_routes, if_pos rfl]; rfl⟩
          | returned sent member idle =>
              exact .inr ⟨slot, by rw [Service.putSend_routes, if_pos rfl]; rfl⟩
          | failed error member idle =>
              rcases goesOn with comes | spared | ⟨another, apart, there⟩
              · exact absurd member (acted.goesOn taskSound sends price.within comes error)
              · left
                refine spared.of_same ?_
                exact congrArg (lookup (fun row : PayoutRecord => row.id) done.id)
                  acted.sameSandbox.payouts
              · exact .inr (settling_update there apart)
        · exact .inr (settling_update there same)
      · intro other project paid paymentId there
        rw [Service.putSend_routes] at there
        have tasks := World.put_tasks service.world slot outcome other
        split at there
        · rename_i same
          rw [show (service.putSend slot _ _).world.tasks other = _ from tasks,
            if_pos same] at there
          left
          cases sent with
          | goesOn next goesOn =>
              rw [goesOn, Route.paying] at there
              obtain ⟨carried, known, shown⟩ := Option.map_eq_some_iff.mp there
              cases shown
              exact continues next paymentId goesOn known
          | returned sent member idle =>
              cases there
              exact returns sent member
          | failed error member idle => cases there
        · rename_i apart
          rw [show (service.putSend slot _ _).world.tasks other = _ from tasks,
            if_neg apart] at there
          exact .inr there
  | cancelled slot projectId origin phase here =>
      refine covered.quiet later targets rfl ?_ ?_
      · intro id other there
        by_cases same : other = slot
        · rw [same] at there
          rcases keeps id there with spared | ⟨another, apart, there⟩
          · exact .inl spared
          · exact .inr (settling_update there apart)
        · exact .inr (settling_update there same)
      · intro other project done paymentId there
        rw [Service.putSend_routes] at there
        have tasks := World.put_tasks service.world slot ⟨service.db, .idle, []⟩ other
        split at there
        · cases there
        · rename_i apart
          rw [show (service.putSend slot _ _).world.tasks other = _ from tasks,
            if_neg apart] at there
          exact .inr there
  | performed action call engine own =>
      exact covered.quiet later targets (perform_sandboxPayouts own service.db)
        (fun id other here => .inr ⟨other, here⟩) fun _ _ _ _ here => .inr here
  | refused action => exact covered
  | crashed =>
      refine covered.quiet later targets rfl ?_ fun _ _ _ _ => nofun
      intro id slot here
      exact .inl (keeps slot id here)

theorem covered_of_reachableBy {env : Env} {service : Service}
    (reached : (payouts env).ReachableBy (Service.KeepsLeg env) service) : Covered service := by
  refine reached.invariant Covered ?_ ?_
  · rintro _ rfl
    exact ⟨fun _ => .inl fun _ => nofun, fun _ _ _ => nofun, fun _ _ _ _ => nofun⟩
  · intro service action next earlier covered keeps step
    have reached := earlier.reachable
    obtain ⟨credits, ledger⟩ := ledger_of_reachable (storage_of_payouts reached)
    exact covered.served (payouts_sound reached)
      (fun _ _ _ _ _ here => finishing_of_reachable reached here)
      (sound_of_reachable (engine_reachable reached))
      (paymentKeys_of_reachable (storage_of_payouts reached)) ledger (priced_of_reachable reached)
      (served_of_step step) keeps

/-! ## Every run -/

/-- **A succeeded payout is paid.** In every run whose steps leave no payout behind,
when no payout request is in progress, every succeeded payout with a settlement
invoice names a payment of its project, for that invoice and for the amount of its
quote. -/
theorem succeeded_payout_paid {env : Env} {service : Service}
    (reached : (payouts env).ReachableBy (Service.KeepsLeg env) service)
    (quiet : ∀ slot, service.routes slot = .idle) {row : PayoutRecord}
    (member : row ∈ service.db.sandboxPayouts) (succeeded : row.status = .succeeded)
    {invoice : String} (settlement : row.settlementBolt11 = some invoice) :
    ∃ paymentId quote payment, row.paymentId = some paymentId ∧
      service.db.findQuote row.quoteId = some quote ∧
      service.db.findPayment paymentId = some payment ∧ payment.projectId = row.projectId ∧
      payment.bolt11 = trim invoice ∧ payment.amountMsat = quote.btcAmountMsat := by
  have covered := covered_of_reachableBy reached
  have found : service.db.findPayout row.id = some row :=
    (payoutIds_of_reachable reached.reachable).lookup_eq_some.mpr ⟨member, rfl⟩
  rcases covered.settled row.id with done | ⟨slot, here⟩
  · have paid := done row found succeeded (by rw [settlement]; nofun)
    obtain ⟨paymentId, named⟩ := Option.ne_none_iff_exists'.mp paid
    obtain ⟨target, quote, payment, settled, priced, there, project, bolt11, amount⟩ :=
      covered.named row.id row paymentId found named
    cases settlement.symm.trans settled
    exact ⟨paymentId, quote, payment, named, priced, there, project, bolt11, amount⟩
  · rw [quiet slot] at here
    cases here

/-- The steps that could leave a payout behind. -/
def ServiceAction.leaves : ServiceAction → Bool
  | .crash | .payout _ .cancel | .payout _ (.pay _) => true
  | _ => false

theorem keepsLeg_of_leaves {env : Env} {service : Service} {action : ServiceAction}
    (safe : action.leaves = false) : service.KeepsLeg env action := by
  unfold ServiceAction.leaves at safe
  unfold Service.KeepsLeg
  split at safe
  · cases safe
  · cases safe
  · cases safe
  · trivial

theorem reachable_keeping {env : Env} {service later : Service} {actions : List ServiceAction}
    (reached : (payouts env).ReachableBy (Service.KeepsLeg env) service)
    (safe : actions.all (fun action => !action.leaves) = true)
    (ran : (payouts env).run service actions = some later) :
    (payouts env).ReachableBy (Service.KeepsLeg env) later := by
  refine Machine.reachableBy_of_run reached (Machine.stepsMeet_of_forall ?_ _) ran
  intro action member state
  exact keepsLeg_of_leaves (Bool.not_eq_true' _ ▸ List.all_eq_true.mp safe action member)

/-- A payout that succeeds at once, with its payment. -/
theorem succeeded_payout_paid_settled : ∃ service : Service,
    (∀ slot, service.routes slot = .idle) ∧ ∃ row ∈ service.db.sandboxPayouts,
      row.status = .succeeded ∧ row.settlementBolt11 = some regtestBolt11 ∧
      ∃ paymentId quote payment, row.paymentId = some paymentId ∧
        service.db.findQuote row.quoteId = some quote ∧
        service.db.findPayment paymentId = some payment ∧ payment.projectId = row.projectId ∧
        payment.bolt11 = trim regtestBolt11 ∧ payment.amountMsat = quote.btcAmountMsat := by
  have funds := reachable_keeping (.start rfl) rfl (run_fundedActions settlementEnv)
  have looked := reachable_keeping funds rfl (show (payouts settlementEnv).run _
    [.payout 0 (.create "prj_1" "key_1" (regtestPayout .success)), .payout 0 .read] = some _
    from rfl)
  have checked := looked.step (show Service.KeepsLeg settlementEnv _
    (.payout 0 (.check regtestMade)) from trivial)
    (Service.step_check 0 regtestMade rfl (checkSettlement_regtest (by decide) rfl))
  have called := reachable_keeping checked rfl (show (payouts settlementEnv).run _
    [.payout 0 .read, .payout 0 (.reserve 1 regtestMade "pot_1"),
      .payout 0 (.write 2), .payout 0 (.write 3), .payout 0 .read, .payout 0 .call] = some _
    from rfl)
  have prepared : prepare settlementEnv regtestMade
      (settlementRequest "pot_1" regtestBolt11 (usedRow regtestQuoteRow)) =
      .ok settlementPrepared :=
    (prepare_settlement rfl).trans (if_neg (by decide))
  have payable : Payable settlementEnv regtestMade
      (settlementRequest "pot_1" regtestBolt11 (usedRow regtestQuoteRow)) := by
    refine ⟨⟨regtestInvoice.paymentHash, some 5_000_000⟩, 5_000_000, ?_, rfl, .inr rfl, by decide⟩
    rw [show trim (settlementRequest "pot_1" regtestBolt11 _).bolt11 = regtestBolt11 from
      trim_regtestBolt11, settlementEnv, parseInvoice_regtest, if_neg (by decide)]
  have parsed := called.step (show Service.KeepsLeg settlementEnv _
    (.payout 0 (.pay (.parse regtestMade))) from ⟨.inl payable, trivial⟩)
    (Service.step_parse 0 regtestMade rfl rfl prepared)
  have begun := parsed.step (show Service.KeepsLeg settlementEnv _
    (.payout 0 (.pay (.begin_ 4 "pay_1"))) from ⟨.inl rfl, fun _ same => by cases same⟩) rfl
  have created : ∀ row, some (createdRow 4
      (settlementPrepared.newPayment "pay_1" "prj_1" (payoutKey "pot_1"))) = some row →
      row.status = .pending ∨ row.status.canTransitionTo .pending = true := by
    rintro _ ⟨⟩
    exact .inr rfl
  have persisted := begun.step (show Service.KeepsLeg settlementEnv _
    (.payout 0 (.pay (.persist 5))) from ⟨.inl created, trivial⟩) rfl
  have dispatched := persisted.step (show Service.KeepsLeg settlementEnv _
    (.payout 0 (.pay (.dispatch (.ok "node_1")))) from ⟨.inl trivial, trivial⟩) rfl
  have paid := reachable_keeping dispatched rfl (show (payouts settlementEnv).run _
    [.payout 0 (.write 6), .payout 0 .read] = some _ from rfl)
  refine ⟨_, ?quiet, _, .head _, rfl, rfl, succeeded_payout_paid paid ?quiet (.head _) rfl rfl⟩
  intro slot
  cases slot with
  | zero => rfl
  | succ other => rfl

/-- The invoice of a payout that timed out has expired when its success is reported. -/
theorem unpaid_success : ∃ service : Service,
    (payouts settlementEnv).ReachableBy (fun _ action => action.ofSandbox = true) service ∧
    (∀ slot, service.routes slot = .idle ∧ service.world.tasks slot = .idle) ∧
    ∃ row ∈ service.db.sandboxPayouts, row.status = .succeeded ∧
      row.settlementBolt11 = some regtestBolt11 ∧ row.paymentId = none := by
  have funds := reachable_ofSandbox (.start rfl) rfl (run_fundedActions settlementEnv)
  have looked := reachable_ofSandbox funds rfl (show (payouts settlementEnv).run _
    [.payout 0 (.create "prj_1" "key_1" (regtestPayout .timeout)), .payout 0 .read] = some _
    from rfl)
  have checked := looked.step rfl
    (Service.step_check 0 regtestMade rfl (checkSettlement_regtest (by decide) rfl))
  have called := reachable_ofSandbox checked rfl (show (payouts settlementEnv).run _
    [.payout 0 .read, .payout 0 (.reserve 1 regtestMade "pot_1"),
      .payout 0 (.write 2), .payout 0 (.write 3),
      .payout 0 (.reconcile "prj_1" "pot_1" "success"), .payout 0 .read, .payout 0 (.write 4),
      .payout 0 .read, .payout 0 .call] = some _ from rfl)
  have failed := called.step rfl
    (Service.step_parse_error 0 (regtestMade + 3_600_000_001) rfl rfl
      ((prepare_settlement rfl).trans (if_pos (by decide))))
  refine ⟨_, failed, ?_, _, .head _, rfl, rfl, rfl⟩
  intro slot
  cases slot with
  | zero => exact ⟨rfl, rfl⟩
  | succ other => exact ⟨rfl, rfl⟩

end Safrod

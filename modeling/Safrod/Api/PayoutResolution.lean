import Mathlib.Data.Fintype.EquivFin
import Safrod.Api.BitcoinLeg
import Safrod.Storage.Funding

/-!
# Which payouts can still be resolved

A payout that is reserved or pending is moved by the request that created it and by
nobody else, so it stays where it is once that request is gone (`Abandoned`). One
that is unknown is resolved by a reconciliation, and one that is still owned by the
next steps of its owner; a refund that would not fit its balance is made to fit by
spending from the balance first (`makesRoom`).

`payout_resolvable_iff` puts the two together.
-/

set_option autoImplicit false

namespace Safrod

open Table Db

/-! ## Resolving a payout -/

/-- A payout that is not final. -/
def PayoutStatus.Open (status : PayoutStatus) : Prop :=
  status = .reserved ∨ status = .pending ∨ status = .unknown

/-- A step takes an open payout to succeeded, or to failed with its amount refunded. -/
def Resolves (before next : Service) (id : String) : Prop :=
  ∃ row row', before.db.findPayout id = some row ∧ row.status.Open ∧
    next.db.findPayout id = some row' ∧
    (row'.status = .succeeded ∨
      row'.status = .failed ∧ ∃ quote, next.db.findQuote row'.quoteId = some quote ∧
        next.db.balanceOf quote.projectId quote.sourceCurrency =
          before.db.balanceOf quote.projectId quote.sourceCurrency + quote.sourceMinor)

/-- Some sequence of sandbox requests, or of their next steps, resolves the payout. -/
def Resolvable (env : Env) (service : Service) (id : String) : Prop :=
  ∃ actions before action next, actions.all ServiceAction.ofSandbox = true ∧
    action.ofSandbox = true ∧ (payouts env).run service actions = some before ∧
    (payouts env).step before action = some next ∧ Resolves before next id

theorem Resolvable.of_run {env : Env} {service middle : Service} {actions : List ServiceAction}
    {id : String} (resolvable : Resolvable env middle id)
    (own : actions.all ServiceAction.ofSandbox = true)
    (ran : (payouts env).run service actions = some middle) : Resolvable env service id := by
  obtain ⟨more, before, action, next, ownMore, ownLast, ranMore, step, resolves⟩ := resolvable
  refine ⟨actions ++ more, before, action, next, ?_, ownLast, ?_, step, resolves⟩
  · rw [List.all_append, own, ownMore]
    rfl
  · rw [Machine.run_append, ran]
    exact ranMore

theorem Resolvable.of_step {env : Env} {service middle : Service} {action : ServiceAction}
    {id : String} (resolvable : Resolvable env middle id) (own : action.ofSandbox = true)
    (step : (payouts env).step service action = some middle) : Resolvable env service id := by
  have alone : [action].all ServiceAction.ofSandbox = true := by
    rw [List.all_cons, own]
    rfl
  refine resolvable.of_run alone ?_
  rw [Machine.run_cons _ _ step]
  rfl

/-! ## Abandoned payouts -/

/-- The payout is reserved or pending, and its creator is gone. -/
def Abandoned (service : Service) (id : String) : Prop :=
  ∃ row, service.db.findPayout id = some row ∧
    (row.status = .reserved ∨ row.status = .pending) ∧
    ∀ slot, (service.routes slot).owns ≠ some id

/-- **A crash abandons every payout that is reserved or pending.** -/
theorem abandoned_of_crash {env : Env} {service next : Service} {id : String} {row : PayoutRecord}
    (found : service.db.findPayout id = some row)
    (stuck : row.status = .reserved ∨ row.status = .pending)
    (step : (payouts env).step service .crash = some next) : Abandoned next id := by
  cases step
  refine ⟨row, found, stuck, ?_⟩
  intro slot owns
  cases owns

/-- A step that moves no payout and adds no owner. -/
theorem Abandoned.quiet {service next : Service} {id : String} (abandoned : Abandoned service id)
    (same : next.db.sandboxPayouts = service.db.sandboxPayouts)
    (owns : ∀ slot, (next.routes slot).owns = some id →
      ∃ slot, (service.routes slot).owns = some id) :
    Abandoned next id := by
  obtain ⟨row, found, stuck, unowned⟩ := abandoned
  refine ⟨row, ?_, stuck, ?_⟩
  · rw [findPayout, same]
    exact found
  · intro slot owned
    obtain ⟨other, owns⟩ := owns slot owned
    exact unowned other owns

theorem Abandoned.served {env : Env} {service next : Service} {action : ServiceAction}
    {id : String} (abandoned : Abandoned service id) (sound : service.Sound env)
    (served : Served env service action next) : Abandoned next id := by
  cases served with
  | engine slot action outcome free acted =>
      exact abandoned.quiet (acted_of_act acted).sameSandbox.payouts fun slot owned => ⟨slot, owned⟩
  | started slot action projectId origin free idle =>
      refine abandoned.quiet rfl fun other owned => ?_
      rw [Service.put_routes] at owned
      split at owned
      · cases origin <;> cases owned
      · exact ⟨other, owned⟩
  | proceeded slot action projectId origin phase outcome here proceeds =>
      obtain ⟨row, found, stuck, unowned⟩ := abandoned
      have mine := sound.routes slot
      rw [here] at mine
      have moves : phase.working ≠ some id := by
        intro working
        cases creates : origin.creates with
        | true =>
            refine unowned slot ?_
            rw [here, Route.owns, if_pos creates, working]
        | false =>
            obtain ⟨notReserved, notPending⟩ := RouteSound.shared_status mine creates working found
            rcases stuck with status | status
            · exact notReserved status
            · exact notPending status
      obtain ⟨row', found', -⟩ :=
        (Served.proceeded slot action projectId origin phase outcome here
          proceeds).payoutLater.payouts id row found
      have same : row'.status = row.status :=
        (proceeds.moves found found').resolve_right moves
      refine ⟨row', found', by rwa [same], ?_⟩
      intro other owned
      rw [Service.put_routes] at owned
      split at owned
      · rcases proceeds.owns owned with before | missing
        · exact unowned slot (here ▸ before)
        · rw [found] at missing
          cases missing
      · exact unowned other owned
  | called slot projectId origin done request here idle =>
      refine abandoned.quiet rfl fun other owned => ?_
      rw [Service.putSend_routes] at owned
      split at owned
      · simp only [Route.owns, PayoutPhase.working, ite_self, reduceCtorEq] at owned
      · exact ⟨other, owned⟩
  | paid slot projectId origin done action outcome route here acted after =>
      refine abandoned.quiet (acted_of_act acted).sameSandbox.payouts fun other owned => ?_
      rw [Service.putSend_routes] at owned
      split at owned
      · obtain ⟨phase, invoice, quote, task, -⟩ := sound.sends slot projectId origin done here
        rw [task] at acted
        cases sent_of_afterSend (acted_of_act acted) after <;>
          simp only [Route.owns, PayoutPhase.working, ite_self, reduceCtorEq] at owned
      · exact ⟨other, owned⟩
  | cancelled slot projectId origin phase here =>
      refine abandoned.quiet rfl fun other owned => ?_
      rw [Service.putSend_routes] at owned
      split at owned
      · cases owned
      · exact ⟨other, owned⟩
  | performed action call engine own =>
      exact abandoned.quiet (perform_sandboxPayouts own service.db) fun slot owned => ⟨slot, owned⟩
  | refused action => exact abandoned
  | crashed =>
      refine abandoned.quiet rfl ?_
      intro slot owned
      cases owned

/-- **An abandoned payout stays abandoned.** -/
theorem Abandoned.lasts {env : Env} {service later : Service}
    (reached : (payouts env).Reachable service) {id : String} (abandoned : Abandoned service id)
    (leads : (payouts env).Leads service later) : Abandoned later id := by
  induction leads with
  | refl => exact abandoned
  | tail earlier step ih =>
      obtain ⟨action, step⟩ := step
      exact ih.served (payouts_sound (reached.leads earlier)) (served_of_step step)

theorem Abandoned.not_resolvable {env : Env} {service : Service}
    (reached : (payouts env).Reachable service) {id : String} (abandoned : Abandoned service id) :
    ¬ Resolvable env service id := by
  rintro ⟨actions, before, action, next, -, -, ran, step, row, row', -, -, found, resolved⟩
  obtain ⟨stuck, there, status, -⟩ :=
    abandoned.lasts reached ((Machine.leads_of_run ran).snoc step)
  cases there.symm.trans found
  rcases resolved with succeeded | ⟨failed, -⟩
  · rw [succeeded] at status
    rcases status with wrong | wrong <;> cases wrong
  · rw [failed] at status
    rcases status with wrong | wrong <;> cases wrong

/-! ## Free slots -/

/-- A request can start in the slot. -/
def Service.Free (service : Service) (slot : ℕ) : Prop :=
  service.routes slot = .idle ∧ service.world.tasks slot = .idle

theorem free_update {service next : Service} {bound : ℕ} (slot : ℕ)
    (free : ∀ other, bound ≤ other → service.Free other)
    (routes : ∀ other, other ≠ slot → next.routes other = service.routes other)
    (tasks : ∀ other, other ≠ slot → next.world.tasks other = service.world.tasks other) :
    ∃ bound, ∀ other, bound ≤ other → next.Free other := by
  refine ⟨max bound (slot + 1), fun other beyond => ?_⟩
  have apart : other ≠ slot := by omega
  obtain ⟨route, task⟩ := free other (le_trans (le_max_left _ _) beyond)
  exact ⟨(routes other apart).trans route, (tasks other apart).trans task⟩

/-- **Some slot is always free.** -/
theorem free_of_reachable {env : Env} {service : Service}
    (reached : (payouts env).Reachable service) : ∃ slot, service.Free slot := by
  have beyond : ∃ bound, ∀ slot, bound ≤ slot → service.Free slot := by
    refine reached.invariant (fun service => ∃ bound, ∀ slot, bound ≤ slot → service.Free slot)
      ?_ ?_
    · rintro _ rfl
      exact ⟨0, fun _ _ => ⟨rfl, rfl⟩⟩
    · rintro service action next - ⟨bound, free⟩ step
      cases served_of_step step with
      | engine slot action outcome idle acted =>
          refine free_update slot free (fun _ _ => rfl) fun other apart => ?_
          exact (World.put_tasks service.world slot outcome other).trans (if_neg apart)
      | started slot action projectId origin route task =>
          refine free_update slot free (fun other apart => ?_) fun _ _ => rfl
          exact (Service.put_routes service slot _ other).trans (if_neg apart)
      | proceeded slot action projectId origin phase outcome here proceeds =>
          refine free_update slot free (fun other apart => ?_) fun _ _ => rfl
          exact (Service.put_routes service slot outcome other).trans (if_neg apart)
      | called slot projectId origin done request here idle =>
          refine free_update slot free (fun other apart => ?_) fun other apart => ?_
          · exact (Service.putSend_routes service slot _ _ other).trans (if_neg apart)
          · exact (World.put_tasks service.world slot _ other).trans (if_neg apart)
      | paid slot projectId origin done action outcome route here acted after =>
          refine free_update slot free (fun other apart => ?_) fun other apart => ?_
          · exact (Service.putSend_routes service slot outcome route other).trans (if_neg apart)
          · exact (World.put_tasks service.world slot outcome other).trans (if_neg apart)
      | cancelled slot projectId origin phase here =>
          refine free_update slot free (fun other apart => ?_) fun other apart => ?_
          · exact (Service.putSend_routes service slot _ _ other).trans (if_neg apart)
          · exact (World.put_tasks service.world slot _ other).trans (if_neg apart)
      | performed action call engine own => exact ⟨bound, free⟩
      | refused action => exact ⟨bound, free⟩
      | crashed => exact ⟨0, fun _ _ => ⟨rfl, rfl⟩⟩
  obtain ⟨bound, free⟩ := beyond
  exact ⟨bound, free bound le_rfl⟩

/-! ## Steps that can be taken -/

/-- A step that a payout request can take is a step of the service. -/
theorem Service.step_act (env : Env) {service : Service} {slot : ℕ} {projectId : String}
    {origin : Origin} {phase : PayoutPhase} {action : PayoutAction} {outcome : RouteOutcome}
    (here : service.routes slot = .payout projectId origin phase)
    (acts : phase.act env service.db projectId origin action = some outcome) :
    (payouts env).step service (.payout slot action) = some (service.put slot outcome) := by
  have outside : service.stepPayout env slot (.payout projectId origin phase) action =
      (phase.act env service.db projectId origin action).map fun outcome =>
        service.put slot outcome := by
    cases action with
    | cancel => cases phase <;> cases acts
    | call => cases phase <;> cases acts
    | pay action => cases phase <;> cases acts
    | _ => rfl
  simp only [payouts, Service.step, here, outside, acts, Option.map_some]

/-- A payout request that can move its payout does. -/
theorem PayoutPhase.act_of_advances {env : Env} {db after : Db} {projectId : String}
    {origin : Origin} {phase : PayoutPhase} {payout row : PayoutRecord} {next : PayoutStatus}
    {now : DateTime} {changed : Bool} (target : phase.advances = some (payout, next))
    (called : advancePayout now payout.id next db = (.ok (row, changed), after)) :
    phase.act env db projectId origin (.write now) =
      some (phase.advanced after projectId origin row) := by
  cases phase with
  | begin_ scenario payout =>
      cases target
      simp only [PayoutPhase.act, called]
      rfl
  | finish payout next =>
      cases target
      simp only [PayoutPhase.act, called]
      rfl
  | succeed payout =>
      cases target
      simp only [PayoutPhase.act, called, PayoutPhase.advanced]
      cases payout.settlementBolt11 <;> rfl
  | _ => cases target

/-- The start of a request. -/
theorem Service.step_reconcile (env : Env) {service : Service} {slot : ℕ}
    (free : service.Free slot) (projectId id outcome : String) :
    (payouts env).step service (.payout slot (.reconcile projectId id outcome)) =
      some (service.put slot
        ⟨service.db, .payout projectId (.reconcile id outcome) .find, []⟩) := by
  simp only [payouts, Service.step, free.1, Service.stepPayout, free.2]

theorem Service.step_create (env : Env) {service : Service} {slot : ℕ}
    (free : service.Free slot) (projectId key : String) (request : PayoutRequest) :
    (payouts env).step service (.payout slot (.create projectId key request)) =
      some (service.put slot
        ⟨service.db, .payout projectId (.create key request) .lookup, []⟩) := by
  simp only [payouts, Service.step, free.1, Service.stepPayout, free.2]

theorem Service.put_self (service : Service) (slot : ℕ) (outcome : RouteOutcome) :
    (service.put slot outcome).routes slot = outcome.route :=
  (Service.put_routes service slot outcome slot).trans (if_pos rfl)

/-- A step that moves the payout to succeeded or failed resolves it. -/
theorem resolves_of_advance {service next : Service} {credits : List Credit}
    (ledger : Ledger service.db credits) {row payout : PayoutRecord} {status : PayoutStatus}
    {now : DateTime} (found : service.db.findPayout row.id = some row) (isOpen : row.status.Open)
    {after : Db} (called : advancePayout now row.id status service.db = (.ok (payout, true), after))
    (same : next.db = after) (final : status = .succeeded ∨ status = .failed) :
    Resolves service next row.id := by
  obtain ⟨moved, there, -, current, before, -, kept⟩ := advancePayout_ok called
  cases before.symm.trans found
  subst same
  refine ⟨row, payout, found, isOpen, there, ?_⟩
  rw [moved]
  rcases final with rfl | rfl
  · exact .inl rfl
  · right
    obtain ⟨quote, priced, -⟩ := ledger.quoted row (lookup_some found).1
    have refunds := advancePayout_refunds ledger found priced called
    refine ⟨rfl, quote, ?_, refunds⟩
    cases advancePayout_advanced called with
    | advanced current there legal payout work written =>
        obtain ⟨rfl, work, -, same⟩ := writeAdvance_eq_ok written
        rw [same]
        exact kept.quoteId ▸ priced

/-- A request that is about to make a final move resolves its payout. -/
theorem resolvable_of_advances {env : Env} {service : Service} {slot : ℕ} {projectId : String}
    {origin : Origin} {phase : PayoutPhase}
    (here : service.routes slot = .payout projectId origin phase) {credits : List Credit}
    (ledger : Ledger service.db credits) {payout row : PayoutRecord} {next : PayoutStatus}
    (target : phase.advances = some (payout, next)) (named : payout.id = row.id)
    (found : service.db.findPayout row.id = some row) (isOpen : row.status.Open)
    (legal : row.status.canTransitionTo next = true)
    (fits : next = .failed → service.db.Refundable row.quoteId)
    (final : next = .succeeded ∨ next = .failed) : Resolvable env service row.id := by
  obtain ⟨after, called⟩ : ∃ after, advancePayout 0 row.id next service.db =
      (.ok (advancedRow 0 next row, true), after) := advancePayout_legal ledger found legal fits
  have step := Service.step_act env here
    (PayoutPhase.act_of_advances target (by rw [named]; exact called))
  refine ⟨[], service, .payout slot (.write 0), _, rfl, rfl, rfl, step, ?_⟩
  exact resolves_of_advance ledger found isOpen called
    (PayoutPhase.advanced_db after projectId origin _ phase) final

/-- **An unknown payout is resolved by a reconciliation.** -/
theorem resolvable_of_unknown {env : Env} {service : Service}
    (reached : (payouts env).Reachable service) {row : PayoutRecord}
    (found : service.db.findPayout row.id = some row) (unknown : row.status = .unknown) :
    Resolvable env service row.id := by
  obtain ⟨slot, free⟩ := free_of_reachable reached
  obtain ⟨credits, ledger⟩ := ledger_of_reachable (storage_of_payouts reached)
  have asked := Service.step_reconcile env free row.projectId row.id "success"
  have fetched : service.db.getPayout row.projectId row.id = .ok row :=
    (getPayout_eq_ok ledger.payoutIds).mpr ⟨found, rfl⟩
  have decided : afterFound row "success" = .ok (.succeed row) := by
    rw [afterFound, if_neg fun known => known unknown, if_pos rfl]
  have finds : PayoutPhase.find.act env service.db row.projectId
      (.reconcile row.id "success") .read = some ⟨service.db,
        .payout row.projectId (.reconcile row.id "success") (.succeed row), []⟩ := by
    simp only [PayoutPhase.act, fetched, decided]
  have here : (service.put slot ⟨service.db,
      .payout row.projectId (.reconcile row.id "success") .find, []⟩).routes slot =
        .payout row.projectId (.reconcile row.id "success") .find := Service.put_self service slot _
  have looked := Service.step_act env here finds
  refine .of_step (.of_step ?_ rfl looked) rfl asked
  have ready : (((service.put slot ⟨service.db,
      .payout row.projectId (.reconcile row.id "success") .find, []⟩).put slot ⟨service.db,
        .payout row.projectId (.reconcile row.id "success") (.succeed row), []⟩)).routes slot =
          .payout row.projectId (.reconcile row.id "success") (.succeed row) :=
    Service.put_self _ slot _
  exact resolvable_of_advances ready ledger rfl rfl found
    (.inr (.inr unknown)) (by rw [unknown]; rfl) (fun failed => by cases failed) (.inl rfl)

/-! ## Spending from a balance -/

/-- A string that is not in a list. -/
theorem exists_fresh (taken : List String) : ∃ fresh, fresh ∉ taken := by
  obtain ⟨fresh, new⟩ := Infinite.exists_notMem_finset taken.toFinset
  exact ⟨fresh, fun member => new (List.mem_toFinset.mpr member)⟩

/-- **A quote that its balance covers can be reserved by a new request**, which leaves
the other requests where they are. -/
theorem reserves {env : Env} {service : Service} (reached : (payouts env).Reachable service)
    {slot : ℕ} (free : service.Free slot) {quote : QuoteRecord}
    (found : service.db.findQuote quote.id = some quote) (opened : quote.status = .open_)
    (stands : ¬ quote.expiresAt < 0)
    (covered : quote.sourceMinor ≤ service.db.balanceOf quote.projectId quote.sourceCurrency)
    (unclaimed : ∀ old ∈ service.db.sandboxPayouts, old.quoteId ≠ quote.id) :
    ∃ actions later request, actions.all ServiceAction.ofSandbox = true ∧
      (payouts env).run service actions = some later ∧ request.projectId = quote.projectId ∧
      FundedReservation request quote service.db later.db ∧
      ∀ other, other ≠ slot → later.routes other = service.routes other := by
  obtain ⟨credits, ledger⟩ := ledger_of_reachable (storage_of_payouts reached)
  obtain ⟨payoutId, freshId⟩ := exists_fresh (service.db.sandboxPayouts.map fun row => row.id)
  obtain ⟨key, freshKey⟩ :=
    exists_fresh (service.db.sandboxPayouts.map fun row => row.idempotencyKey)
  let asked : PayoutRequest := ⟨quote.id, "timeout", none⟩
  let request := asked.reservation quote.projectId key .timeout payoutId
  have fresh : ∀ old ∈ service.db.sandboxPayouts, ¬ PayoutClash (reservedRow 0 request) old := by
    rintro old member (sameId | sameQuote | ⟨-, sameKey⟩)
    · exact freshId (List.mem_map.mpr ⟨old, member, sameId⟩)
    · exact unclaimed old member sameQuote
    · exact freshKey (List.mem_map.mpr ⟨old, member, sameKey⟩)
  have fetched : service.db.getQuote quote.projectId quote.id = .ok quote :=
    (getQuote_eq_ok ledger.quoteIds).mpr ⟨found, rfl⟩
  have missing : service.db.findPayoutByKey quote.projectId key = none := by
    refine Table.lookup_eq_none.mpr fun old member same => freshKey ?_
    exact List.mem_map.mpr ⟨old, member, (Prod.mk.inj same).2⟩
  obtain ⟨after, called, spent⟩ : ∃ after,
      reserveQuote 0 0 request service.db = (.ok (reservedRow 0 request), after) ∧
        FundedReservation request quote service.db after :=
    reserveQuote_funded (storage_of_payouts reached) found rfl rfl opened stands covered
      (show "timeout" ∈ scenarios by decide) fresh
  -- the four steps of the request
  let at_ (db : Db) (phase : PayoutPhase) : RouteOutcome :=
    ⟨db, .payout quote.projectId (.create key asked) phase, []⟩
  let looking := service.put slot (at_ service.db .lookup)
  let checking := looking.put slot (at_ service.db (.findPrior .timeout))
  let reserving := checking.put slot (at_ service.db (.reserve .timeout))
  let reserved := reserving.put slot (at_ after (.begin_ .timeout (reservedRow 0 request)))
  have started := Service.step_create env free quote.projectId key asked
  have looked : (payouts env).step looking (.payout slot .read) = some checking := by
    refine Service.step_act env (Service.put_self service slot _) ?_
    have fetched : looking.db.getQuote quote.projectId asked.quoteId = .ok quote := fetched
    simp only [PayoutPhase.act, fetched]
    rfl
  have missed : (payouts env).step checking (.payout slot .read) = some reserving := by
    refine Service.step_act env (Service.put_self looking slot _) ?_
    have missing : checking.db.findPayoutByKey quote.projectId key = none := missing
    simp only [PayoutPhase.act, missing]
    rfl
  have taken : (payouts env).step reserving (.payout slot (.reserve 0 0 payoutId)) =
      some reserved := by
    refine Service.step_act env (Service.put_self checking slot _) ?_
    have called : reserveQuote 0 0 (asked.reservation quote.projectId key .timeout payoutId)
        reserving.db = (.ok (reservedRow 0 request), after) := called
    simp only [PayoutPhase.act, called]
    rfl
  refine ⟨[.payout slot (.create quote.projectId key asked), .payout slot .read,
    .payout slot .read, .payout slot (.reserve 0 0 payoutId)], reserved, request, rfl, ?_, rfl,
    spent, ?_⟩
  · rw [Machine.run_cons _ _ started, Machine.run_cons _ _ looked, Machine.run_cons _ _ missed,
      Machine.run_cons _ _ taken]
    rfl
  · intro other apart
    simp only [reserved, reserving, checking, looking, Service.put_routes, if_neg apart]

/-- The quote that is given at time 0 for what was priced. -/
def QuoteCalc.given (priced : QuoteCalc) (projectId : String) (source target : Currency)
    (sourceMinor : ℕ) : NewQuote where
  projectId := projectId
  sourceCurrency := source.code
  targetCurrency := target.code
  sourceMinor := sourceMinor
  targetMinor := priced.targetMinor
  ratePpm := priced.ratePpm
  btcAmountMsat := priced.btcAmountMsat
  expiresAt := 0 + quoteTtlSecs * 1_000_000

/-- What was priced once can be quoted again. -/
theorem Service.step_createQuote (env : Env) {service : Service} {source target : Currency}
    {sourceMinor : ℕ} {priced : QuoteCalc} (quoted : quote source target sourceMinor = .ok priced)
    {id : String} (idFree : service.db.findQuote id = none) (projectId : String) :
    (payouts env).step service (.createQuote 0 0 id projectId
        ⟨source.code, sourceMinor, target.code⟩) =
      some { service with world := { service.world with db :=
        { service.db with sandboxQuotes := service.db.sandboxQuotes ++
          [quoteRow 0 id (priced.given projectId source target sourceMinor)] } } } := by
  have made : (QuoteRequest.mk source.code sourceMinor target.code).newQuote projectId 0 =
      .ok (priced.given projectId source target sourceMinor) := by
    simp only [QuoteRequest.newQuote, Currency.parse_code, quoted, Except.mapError, bind,
      Except.bind]
    rfl
  obtain ⟨sourceFits, targetFits, rateFits, amountFits⟩ := (quoted_of_quote quoted).fits
  have small : sourceMinor ≤ i64Max := by omega
  have inserted : insertQuote 0 id (priced.given projectId source target sourceMinor) service.db =
      (.ok _, _) := insertQuote_fresh idFree ⟨(quoted_of_quote quoted).sourcePositive, small⟩
    ⟨(quoted_of_quote quoted).targetPositive, targetFits⟩ rateFits
    ⟨(quoted_of_quote quoted).btcPositive, amountFits⟩
  have performed : service.db.perform
      (.insertQuote 0 id (priced.given projectId source target sourceMinor)) =
        { service.db with sandboxQuotes := service.db.sandboxQuotes ++
          [quoteRow 0 id (priced.given projectId source target sourceMinor)] } := by
    rw [perform, inserted]
  simp only [payouts, Service.step, made, Service.call, World.step, ← performed]
  rfl

/-- **A quote that its balance covers can be priced and reserved once more**, while the
payouts, the quotes and the requests in progress stay where they are. -/
theorem spends {env : Env} {service : Service} (reached : (payouts env).Reachable service)
    {quote : QuoteRecord} (stored : service.db.findQuote quote.id = some quote)
    (covered : quote.sourceMinor ≤ service.db.balanceOf quote.projectId quote.sourceCurrency) :
    ∃ actions later, actions.all ServiceAction.ofSandbox = true ∧
      (payouts env).run service actions = some later ∧
      (∀ id row, service.db.findPayout id = some row → later.db.findPayout id = some row) ∧
      (∀ id row, service.db.findQuote id = some row → later.db.findQuote id = some row) ∧
      later.db.balanceOf quote.projectId quote.sourceCurrency =
        service.db.balanceOf quote.projectId quote.sourceCurrency - quote.sourceMinor ∧
      ∀ slot, service.routes slot ≠ .idle → later.routes slot = service.routes slot := by
  obtain ⟨credits, ledger⟩ := ledger_of_reachable (storage_of_payouts reached)
  obtain ⟨source, target, priced, price⟩ :=
    priced_of_reachable reached quote (lookup_some stored).1
  obtain ⟨id, freshId⟩ := exists_fresh (service.db.sandboxQuotes.map fun row => row.id)
  have idFree : service.db.findQuote id = none := by
    refine lookup_eq_none.mpr fun old member same => freshId ?_
    exact List.mem_map.mpr ⟨old, member, same⟩
  let again := quoteRow 0 id (priced.given quote.projectId source target quote.sourceMinor.toNat)
  have amount : again.sourceMinor = quote.sourceMinor :=
    Int.toNat_of_nonneg price.sourceMinor.le
  have currency : again.sourceCurrency = quote.sourceCurrency := price.sourceCurrency.symm
  have quotes := Service.step_createQuote env price.given idFree quote.projectId
  have kept : ∀ other old, service.db.findQuote other = some old →
      lookup (fun row : QuoteRecord => row.id) other (service.db.sandboxQuotes ++ [again]) =
        some old := by
    intro other old there
    rw [lookup_append_singleton, ← findQuote, there]
    rfl
  have quoted : lookup (fun row : QuoteRecord => row.id) again.id
      (service.db.sandboxQuotes ++ [again]) = some again := by
    rw [lookup_append_singleton, ← findQuote, show again.id = id from rfl, idFree, if_pos rfl]
    rfl
  have unclaimed : ∀ old ∈ service.db.sandboxPayouts, old.quoteId ≠ again.id := by
    intro old member same
    obtain ⟨owed, there, -⟩ := ledger.quoted old member
    rw [same] at there
    cases there.symm.trans idFree
  have stands : ¬ again.expiresAt < 0 := by
    simp only [again, quoteRow, QuoteCalc.given, quoteTtlSecs]
    decide
  have covered : again.sourceMinor ≤
      service.db.balanceOf again.projectId again.sourceCurrency := by
    rw [amount, currency]
    exact covered
  obtain ⟨slot, free⟩ := free_of_reachable reached
  obtain ⟨actions, later, asked, own, ran, project, spent, routes⟩ :=
    reserves (reached.next quotes) (show Service.Free _ slot from ⟨free.1, free.2⟩) quoted rfl
      stands covered unclaimed
  refine ⟨.createQuote 0 0 id quote.projectId
    ⟨source.code, quote.sourceMinor.toNat, target.code⟩ :: actions, later, own, ?_, spent.payouts,
    ?_, ?_, ?_⟩
  · rw [Machine.run_cons _ _ quotes]
    exact ran
  · intro other row there
    have apart : other ≠ again.id := by
      rintro rfl
      cases there.symm.trans idFree
    rw [spent.quotes other apart]
    exact kept other row there
  · have balance := spent.balance
    rw [project, amount, currency] at balance
    exact balance
  · intro other busy
    refine routes other fun same => busy ?_
    rw [same]
    exact free.1

/-- **A payout that is too large to be refunded can be made to fit its balance.** -/
theorem makesRoom {env : Env} {service : Service} (reached : (payouts env).Reachable service)
    {row : PayoutRecord} (found : service.db.findPayout row.id = some row) :
    ∃ actions later, actions.all ServiceAction.ofSandbox = true ∧
      (payouts env).run service actions = some later ∧
      later.db.findPayout row.id = some row ∧ later.db.Refundable row.quoteId ∧
      ∀ slot, service.routes slot ≠ .idle → later.routes slot = service.routes slot := by
  by_cases room : service.db.Refundable row.quoteId
  · exact ⟨[], service, rfl, rfl, found, room, fun _ _ => rfl⟩
  · obtain ⟨credits, ledger⟩ := ledger_of_reachable (storage_of_payouts reached)
    obtain ⟨quote, priced, -⟩ := ledger.quoted row (lookup_some found).1
    obtain ⟨member, named⟩ := lookup_some priced
    obtain ⟨source, target, given, price⟩ := priced_of_reachable reached quote member
    have fits := (quoted_of_quote price.given).fits.1
    have positive := price.sourceMinor
    have large : i64Max <
        service.db.balanceOf quote.projectId quote.sourceCurrency + quote.sourceMinor := by
      refine not_le.mp fun small => room fun other there => ?_
      cases there.symm.trans priced
      exact small
    have stored : service.db.findQuote quote.id = some quote := named.symm ▸ priced
    obtain ⟨actions, later, own, ran, payouts, quotes, balance, routes⟩ :=
      spends reached stored (by omega)
    refine ⟨actions, later, own, ran, payouts row.id row found, ?_, routes⟩
    intro other there
    cases there.symm.trans (quotes row.quoteId quote priced)
    have within := balance_le_of_reachable (storage_of_payouts reached) quote.projectId
      quote.sourceCurrency
    omega

/-! ## Payouts in the hands of their creator -/

/-- **A pending payout is resolved by the next step of its creator**, or by a
reconciliation after it. -/
theorem resolvable_of_pending {env : Env} {service : Service}
    (reached : (payouts env).Reachable service) {slot : ℕ} {projectId : String} {origin : Origin}
    {phase : PayoutPhase} (here : service.routes slot = .payout projectId origin phase)
    {payout row : PayoutRecord} {next : PayoutStatus}
    (target : phase.advances = some (payout, next))
    (named : payout.id = row.id) (found : service.db.findPayout row.id = some row)
    (pending : row.status = .pending)
    (ends : next = .succeeded ∨ next = .failed ∨ next = .unknown) :
    Resolvable env service row.id := by
  obtain ⟨credits, ledger⟩ := ledger_of_reachable (storage_of_payouts reached)
  have isOpen : row.status.Open := .inr (.inl pending)
  rcases ends with rfl | rfl | rfl
  · exact resolvable_of_advances here ledger target named found isOpen (by rw [pending]; rfl)
      (fun failed => by cases failed) (.inl rfl)
  · obtain ⟨actions, later, own, ran, stored, room, routes⟩ := makesRoom reached found
    have reachedLater : (payouts env).Reachable later := reached.leads (Machine.leads_of_run ran)
    obtain ⟨credits, ledger⟩ := ledger_of_reachable (storage_of_payouts reachedLater)
    have busy : service.routes slot ≠ .idle := by
      rw [here]
      nofun
    refine .of_run ?_ own ran
    exact resolvable_of_advances ((routes slot busy).trans here) ledger target named stored isOpen
      (by rw [pending]; rfl) (fun _ => room) (.inr rfl)
  · obtain ⟨after, called⟩ : ∃ after, advancePayout 0 row.id .unknown service.db =
        (.ok (advancedRow 0 .unknown row, true), after) :=
      advancePayout_legal ledger found (by rw [pending]; rfl) (fun failed => by cases failed)
    have step := Service.step_act env here
      (PayoutPhase.act_of_advances target (by rw [named]; exact called))
    obtain ⟨unknown, stored, -⟩ := advancePayout_ok called
    have stored : (service.put slot (phase.advanced after projectId origin
        (advancedRow 0 .unknown row))).db.findPayout row.id =
          some (advancedRow 0 .unknown row) := by
      show (phase.advanced after projectId origin _).db.findPayout row.id = _
      rw [PayoutPhase.advanced_db]
      exact stored
    have resolved : Resolvable env (service.put slot _) (advancedRow 0 .unknown row).id :=
      resolvable_of_unknown (reached.next step) stored unknown
    exact .of_step resolved rfl step

/-- A reserved payout becomes pending with the next step of its creator. -/
theorem resolvable_of_reserved {env : Env} {service : Service}
    (reached : (payouts env).Reachable service) {slot : ℕ} {projectId : String} {origin : Origin}
    {scenario : Scenario} {payout row : PayoutRecord}
    (here : service.routes slot = .payout projectId origin (.begin_ scenario payout))
    (named : payout.id = row.id) (found : service.db.findPayout row.id = some row)
    (reserved : row.status = .reserved) : Resolvable env service row.id := by
  obtain ⟨credits, ledger⟩ := ledger_of_reachable (storage_of_payouts reached)
  obtain ⟨after, called⟩ : ∃ after, advancePayout 0 row.id .pending service.db =
      (.ok (advancedRow 0 .pending row, true), after) :=
    advancePayout_legal ledger found (by rw [reserved]; rfl) (fun failed => by cases failed)
  have acted : (PayoutPhase.begin_ scenario payout).act env service.db projectId origin (.write 0) =
      some ⟨after, .payout projectId origin (afterPending (advancedRow 0 .pending row) scenario),
        []⟩ :=
    PayoutPhase.act_of_advances rfl (by rw [named]; exact called)
  have step := Service.step_act env here acted
  obtain ⟨pending, stored, -⟩ := advancePayout_ok called
  have working := Service.put_self service slot
    ⟨after, .payout projectId origin (afterPending (advancedRow 0 .pending row) scenario), []⟩
  have goesOn : ∃ next, (afterPending (advancedRow 0 .pending row) scenario).advances =
      some (advancedRow 0 .pending row, next) ∧
        (next = .succeeded ∨ next = .failed ∨ next = .unknown) := by
    cases scenario with
    | success => exact ⟨.succeeded, rfl, .inl rfl⟩
    | failure => exact ⟨.failed, rfl, .inr (.inl rfl)⟩
    | timeout => exact ⟨.unknown, rfl, .inr (.inr rfl)⟩
  obtain ⟨next, target, ends⟩ := goesOn
  have resolved : Resolvable env (service.put slot _) (advancedRow 0 .pending row).id :=
    resolvable_of_pending (reached.next step) working target rfl stored pending ends
  exact .of_step resolved rfl step

/-- **A payout that its creator still works on is resolved by the creator.** -/
theorem resolvable_of_owned {env : Env} {service : Service}
    (reached : (payouts env).Reachable service) {row : PayoutRecord}
    (found : service.db.findPayout row.id = some row) {slot : ℕ}
    (owns : (service.routes slot).owns = some row.id) : Resolvable env service row.id := by
  have sound := (payouts_sound reached).routes slot
  cases here : service.routes slot with
  | idle =>
      rw [here] at owns
      cases owns
  | payout projectId origin phase =>
      rw [here, Route.owns] at owns
      rw [here] at sound
      split at owns
      · rename_i creates
        obtain ⟨payout, carried, named⟩ := PayoutPhase.payout_of_working owns
        obtain ⟨stored, there, -, -, -, -, allowed⟩ := RouteSound.stored sound payout carried
        rw [named] at there
        cases there.symm.trans found
        rw [creates] at allowed
        cases phase with
        | begin_ scenario payout =>
            cases carried
            exact resolvable_of_reserved reached here named found allowed.2
        | finish payout next =>
            cases carried
            exact resolvable_of_pending reached here rfl named found allowed
              (.inr (finishing_of_reachable reached here))
        | succeed payout =>
            cases carried
            exact resolvable_of_pending reached here rfl named found allowed (.inl rfl)
        | _ => cases owns
      · cases owns

/-! ## Every payout that is not final -/

/-- **Which payouts can be resolved.** A payout that is not final is taken to succeeded,
or to failed with its amount refunded, by some sequence of sandbox requests and of
their steps exactly when it is unknown or the request that created it is still in
progress. -/
theorem payout_resolvable_iff {env : Env} {service : Service}
    (reached : (payouts env).Reachable service) {row : PayoutRecord}
    (found : service.db.findPayout row.id = some row) (isOpen : row.status.Open) :
    Resolvable env service row.id ↔
      row.status = .unknown ∨ ∃ slot, (service.routes slot).owns = some row.id := by
  constructor
  · intro resolvable
    by_contra neither
    obtain ⟨known, unowned⟩ := not_or.mp neither
    have stuck : row.status = .reserved ∨ row.status = .pending := by
      rcases isOpen with reserved | pending | unknown
      · exact .inl reserved
      · exact .inr pending
      · exact absurd unknown known
    have abandoned : Abandoned service row.id := ⟨row, found, stuck, not_exists.mp unowned⟩
    exact abandoned.not_resolvable reached resolvable
  · rintro (unknown | ⟨slot, owns⟩)
    · exact resolvable_of_unknown reached found unknown
    · exact resolvable_of_owned reached found owns

/-- A payout whose creator reserved it a moment ago. -/
theorem payout_resolvable_reserved : ∃ service : Service,
    (payouts settlementEnv).Reachable service ∧ ∃ row,
      service.db.findPayout "pot_1" = some row ∧ row.status = .reserved ∧
      Resolvable settlementEnv service "pot_1" := by
  have funds := Machine.reachable_of_run rfl (run_fundedActions settlementEnv)
  have ran : (payouts settlementEnv).run funded [.payout 0 (.create "prj_1" "key_1" plainPayout),
      .payout 0 .read, .payout 0 .read,
      .payout 0 (.reserve 1 regtestMade "pot_1")] = some _ := rfl
  have reached := funds.leads (Machine.leads_of_run ran)
  refine ⟨_, reached, _, rfl, rfl, ?_⟩
  exact (payout_resolvable_iff reached rfl (.inl rfl)).mpr (.inr ⟨0, rfl⟩)

/-- After a crash between `reserve_payout` and `advance_payout`, the payout keeps its
amount for ever. -/
theorem locked_payout : ∃ service : Service,
    (payouts settlementEnv).ReachableBy
      (fun _ action => action.ofSandbox = true ∨ action = .crash) service ∧
    (∃ row, service.db.findPayout "pot_1" = some row ∧ row.status = .reserved) ∧
    ¬ Resolvable settlementEnv service "pot_1" ∧
    ∀ later, (payouts settlementEnv).Leads service later →
      ∃ row, later.db.findPayout "pot_1" = some row ∧
        (row.status = .reserved ∨ row.status = .pending) := by
  have funds := reachable_ofSandbox (.start rfl) rfl (run_fundedActions settlementEnv)
  obtain ⟨service, reserved, row, found, status⟩ : ∃ service : Service,
      (payouts settlementEnv).ReachableBy (fun _ action => action.ofSandbox = true) service ∧
      ∃ row, service.db.findPayout "pot_1" = some row ∧ row.status = .reserved :=
    ⟨_, reachable_ofSandbox funds rfl (show (payouts settlementEnv).run _
      [.payout 0 (.create "prj_1" "key_1" plainPayout), .payout 0 .read, .payout 0 .read,
        .payout 0 (.reserve 1 regtestMade "pot_1")] = some _ from rfl), _, rfl, rfl⟩
  have crash : (payouts settlementEnv).step service .crash = some _ := rfl
  have crashed : (payouts settlementEnv).ReachableBy
      (fun _ action => action.ofSandbox = true ∨ action = .crash) _ :=
    (reserved.mono fun _ _ own => .inl own).step (.inr rfl) crash
  have abandoned := abandoned_of_crash found (.inl status) crash
  refine ⟨_, crashed, ⟨row, found, status⟩, abandoned.not_resolvable crashed.reachable, ?_⟩
  intro later leads
  obtain ⟨row, found, stuck, -⟩ := abandoned.lasts crashed.reachable leads
  exact ⟨row, found, stuck⟩

end Safrod

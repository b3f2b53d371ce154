import Safrod.Api.Payouts
import Safrod.Engine.Steps

/-!
# The exits of a step of the sandbox routes

`Refuses` lists why a payout request ends with an error, `Proceeds` lists what else
a step of it can do, and `Served` lists the steps of the service. No proof about
the service looks at its step function again.

`engine_reachable` is the first use: a running service is a running daemon that
somebody makes storage calls on.
-/

set_option autoImplicit false

namespace Safrod

open Table

/-! ## The exits of a payout request -/

/-- The payout a phase moves, and where to. -/
def PayoutPhase.advances : PayoutPhase → Option (PayoutRecord × PayoutStatus)
  | .begin_ _ payout => some (payout, .pending)
  | .finish payout next => some (payout, next)
  | .succeed payout => some (payout, .succeeded)
  | _ => none

/-- Where a request goes on once its payout was moved. -/
def PayoutPhase.advanced (db : Db) (projectId : String) (origin : Origin) (row : PayoutRecord) :
    PayoutPhase → RouteOutcome
  | .begin_ scenario _ => ⟨db, .payout projectId origin (afterPending row scenario), []⟩
  | .succeed payout =>
      match payout.settlementBolt11 with
      | none => conclude db projectId origin row
      | some invoice => ⟨db, .payout projectId origin (.price row invoice), []⟩
  | _ => conclude db projectId origin row

@[simp] theorem conclude_db (db : Db) (projectId : String) (origin : Origin)
    (payout : PayoutRecord) : (conclude db projectId origin payout).db = db := by
  cases origin <;> rfl

@[simp] theorem PayoutPhase.advanced_db (db : Db) (projectId : String) (origin : Origin)
    (row : PayoutRecord) (phase : PayoutPhase) :
    (phase.advanced db projectId origin row).db = db := by
  cases phase with
  | succeed payout =>
      simp only [PayoutPhase.advanced]
      split
      · exact conclude_db db projectId origin row
      · rfl
  | begin_ scenario payout => rfl
  | _ => exact conclude_db db projectId origin row

/-- Why a payout request ends with an error. -/
inductive Refuses (env : Env) (db : Db) (projectId : String) :
    Origin → PayoutPhase → PayoutAction → ApiError → Prop where
  | scenario (key : String) (request : PayoutRequest) (error : SandboxError)
      (parsed : Scenario.parse request.scenario = .error error) :
      Refuses env db projectId (.create key request) .lookup .read error.toApiError
  | quote (key : String) (request : PayoutRequest) (scenario : Scenario) (error : StorageError)
      (parsed : Scenario.parse request.scenario = .ok scenario)
      (missing : db.getQuote projectId request.quoteId = .error error) :
      Refuses env db projectId (.create key request) .lookup .read (quoteNotFound error)
  | invoice (origin : Origin) (scenario : Scenario) (quote : QuoteRecord) (invoice : String)
      (clock : DateTime) (error : ApiError)
      (checked : checkSettlement env clock quote invoice = .error error) :
      Refuses env db projectId origin (.checkInvoice scenario quote invoice) (.check clock) error
  | prior (key : String) (request : PayoutRequest) (scenario : Scenario) (prior : PayoutRecord)
      (error : StorageError) (found : db.findPayoutByKey projectId key = some prior)
      (differs : Db.replayPayout (request.reservation projectId key scenario "") prior =
        .error error) :
      Refuses env db projectId (.create key request) (.findPrior scenario) .read error.toApiError
  | reserve (key : String) (request : PayoutRequest) (scenario : Scenario) (now clock : DateTime)
      (payoutId : String) (error : StorageError)
      (called : Db.reserveQuote now clock (request.reservation projectId key scenario payoutId) db =
        (.error error, db)) :
      Refuses env db projectId (.create key request) (.reserve scenario)
        (.reserve now clock payoutId) error.toApiError
  | advance (origin : Origin) (phase : PayoutPhase) (payout : PayoutRecord) (next : PayoutStatus)
      (now : DateTime) (error : StorageError) (target : phase.advances = some (payout, next))
      (called : Db.advancePayout now payout.id next db = (.error error, db)) :
      Refuses env db projectId origin phase (.write now) error.toApiError
  | price (origin : Origin) (done : PayoutRecord) (invoice : String) (error : StorageError)
      (missing : db.getQuote projectId done.quoteId = .error error) :
      Refuses env db projectId origin (.price done invoice) .read error.toApiError
  | attach (origin : Origin) (done : PayoutRecord) (payment : PaymentRecord) (now : DateTime)
      (error : StorageError)
      (called : Db.attachPaymentToPayout now done.id payment.id db = (.error error, db)) :
      Refuses env db projectId origin (.attach done payment) (.write now) error.toApiError
  | fetch (origin : Origin) (done : PayoutRecord) (error : StorageError)
      (missing : db.getPayout projectId done.id = .error error) :
      Refuses env db projectId origin (.fetch done) .read error.toApiError
  | find (id outcome : String) (error : StorageError)
      (missing : db.getPayout projectId id = .error error) :
      Refuses env db projectId (.reconcile id outcome) .find .read (payoutNotFound error)
  | outcome (id outcome : String) (payout : PayoutRecord) (error : ApiError)
      (found : db.getPayout projectId id = .ok payout)
      (decided : afterFound payout outcome = .error error) :
      Refuses env db projectId (.reconcile id outcome) .find .read error
  | payment (origin : Origin) (payout : PayoutRecord) (paymentId : String) (error : StorageError)
      (attached : payout.paymentId = some paymentId)
      (missing : db.getPayment projectId paymentId = .error error) :
      Refuses env db projectId origin (.show_ payout) .read error.toApiError

/-- What a step of a payout request outside the engine does. -/
inductive Proceeds (env : Env) (db : Db) (projectId : String) :
    Origin → PayoutPhase → PayoutAction → RouteOutcome → Prop where
  | refused (origin : Origin) (phase : PayoutPhase) (action : PayoutAction) (error : ApiError)
      (reason : Refuses env db projectId origin phase action error) :
      Proceeds env db projectId origin phase action (answerError db projectId origin error)
  | lookedUp (key : String) (request : PayoutRequest) (scenario : Scenario) (quote : QuoteRecord)
      (parsed : Scenario.parse request.scenario = .ok scenario)
      (found : db.getQuote projectId request.quoteId = .ok quote) :
      Proceeds env db projectId (.create key request) .lookup .read
        ⟨db, .payout projectId (.create key request) (afterLookup request scenario quote), []⟩
  | checked (origin : Origin) (scenario : Scenario) (quote : QuoteRecord) (invoice : String)
      (clock : DateTime) (accepted : checkSettlement env clock quote invoice = .ok ()) :
      Proceeds env db projectId origin (.checkInvoice scenario quote invoice) (.check clock)
        ⟨db, .payout projectId origin (.findPrior scenario), []⟩
  | replayed (key : String) (request : PayoutRequest) (scenario : Scenario)
      (prior payout : PayoutRecord) (found : db.findPayoutByKey projectId key = some prior)
      (same : Db.replayPayout (request.reservation projectId key scenario "") prior = .ok payout) :
      Proceeds env db projectId (.create key request) (.findPrior scenario) .read
        (answerWith db projectId (.create key request) (.ok ⟨payout, false⟩))
  | noPrior (key : String) (request : PayoutRequest) (scenario : Scenario)
      (missing : db.findPayoutByKey projectId key = none) :
      Proceeds env db projectId (.create key request) (.findPrior scenario) .read
        ⟨db, .payout projectId (.create key request) (.reserve scenario), []⟩
  | reserved (key : String) (request : PayoutRequest) (scenario : Scenario)
      (now clock : DateTime) (payoutId : String) (payout : PayoutRecord) (after : Db)
      (called : Db.reserveQuote now clock (request.reservation projectId key scenario payoutId) db =
        (.ok payout, after)) :
      Proceeds env db projectId (.create key request) (.reserve scenario)
        (.reserve now clock payoutId)
        ⟨after, .payout projectId (.create key request) (.begin_ scenario payout), []⟩
  | advanced (origin : Origin) (phase : PayoutPhase) (payout : PayoutRecord) (next : PayoutStatus)
      (now : DateTime) (row : PayoutRecord) (changed : Bool) (after : Db)
      (target : phase.advances = some (payout, next))
      (called : Db.advancePayout now payout.id next db = (.ok (row, changed), after)) :
      Proceeds env db projectId origin phase (.write now)
        (phase.advanced after projectId origin row)
  | priced (origin : Origin) (done : PayoutRecord) (invoice : String) (quote : QuoteRecord)
      (found : db.getQuote projectId done.quoteId = .ok quote) :
      Proceeds env db projectId origin (.price done invoice) .read
        ⟨db, .payout projectId origin (.call done (settlementRequest done.id invoice quote)), []⟩
  | attached (origin : Origin) (done : PayoutRecord) (payment : PaymentRecord) (now : DateTime)
      (after : Db)
      (called : Db.attachPaymentToPayout now done.id payment.id db = (.ok (), after)) :
      Proceeds env db projectId origin (.attach done payment) (.write now)
        ⟨after, .payout projectId origin (.fetch done), []⟩
  | fetched (origin : Origin) (done payout : PayoutRecord)
      (found : db.getPayout projectId done.id = .ok payout) :
      Proceeds env db projectId origin (.fetch done) .read (conclude db projectId origin payout)
  | found (id outcome : String) (payout : PayoutRecord) (phase : PayoutPhase)
      (found : db.getPayout projectId id = .ok payout)
      (decided : afterFound payout outcome = .ok phase) :
      Proceeds env db projectId (.reconcile id outcome) .find .read
        ⟨db, .payout projectId (.reconcile id outcome) phase, []⟩
  | shown (origin : Origin) (payout : PayoutRecord) :
      Proceeds env db projectId origin (.show_ payout) .read
        (answerWith db projectId origin (.ok ⟨payout, false⟩))

/-- An advance that fails changes nothing. -/
theorem advancePayout_error {now : DateTime} {payoutId : String} {next : PayoutStatus}
    {db after : Db} {error : StorageError}
    (called : Db.advancePayout now payoutId next db = (.error error, after)) : after = db := by
  cases Db.advancePayout_advanced called with
  | refused error => rfl

theorem attachPaymentToPayout_error {now : DateTime} {payoutId paymentId : String} {db after : Db}
    {error : StorageError}
    (called : Db.attachPaymentToPayout now payoutId paymentId db = (.error error, after)) :
    after = db := by
  unfold Db.attachPaymentToPayout at called
  rcases transaction_cases _ db with
    ⟨failure, -, ended⟩ | ⟨result, -, ended⟩ | ⟨result, work, -, ended⟩
  · rw [ended] at called
    cases called
    rfl
  · rw [ended] at called
    cases called
  · rw [ended] at called
    cases called

/-- **A step of a payout request takes one of the listed exits.** -/
theorem proceeds_of_act {env : Env} {db : Db} {projectId : String} {origin : Origin}
    {phase : PayoutPhase} {action : PayoutAction} {outcome : RouteOutcome}
    (acted : phase.act env db projectId origin action = some outcome) :
    Proceeds env db projectId origin phase action outcome := by
  cases phase with
  | lookup =>
      cases action with
      | read =>
          cases origin with
          | reconcile id outcome => cases acted
          | create key request =>
              simp only [PayoutPhase.act] at acted
              split at acted
              · rename_i error parsed
                cases acted
                exact .refused _ _ _ _ (.scenario key request error parsed)
              · rename_i scenario parsed
                split at acted
                · rename_i error missing
                  cases acted
                  exact .refused _ _ _ _ (.quote key request scenario error parsed missing)
                · rename_i quote found
                  cases acted
                  exact .lookedUp key request scenario quote parsed found
      | _ => cases acted
  | checkInvoice scenario quote invoice =>
      cases action with
      | check clock =>
          simp only [PayoutPhase.act] at acted
          split at acted
          · rename_i error checked
            cases acted
            exact .refused _ _ _ _ (.invoice origin scenario quote invoice clock error checked)
          · rename_i accepted
            cases acted
            exact .checked origin scenario quote invoice clock accepted
      | _ => cases acted
  | findPrior scenario =>
      cases action with
      | read =>
          cases origin with
          | reconcile id outcome => cases acted
          | create key request =>
              simp only [PayoutPhase.act] at acted
              split at acted
              · rename_i missing
                cases acted
                exact .noPrior key request scenario missing
              · rename_i prior found
                split at acted
                · rename_i error differs
                  cases acted
                  exact .refused _ _ _ _ (.prior key request scenario prior error found differs)
                · rename_i payout same
                  cases acted
                  exact .replayed key request scenario prior payout found same
      | _ => cases acted
  | reserve scenario =>
      cases action with
      | reserve now clock payoutId =>
          cases origin with
          | reconcile id outcome => cases acted
          | create key request =>
              simp only [PayoutPhase.act] at acted
              split at acted
              · rename_i error after called
                cases acted
                rcases Db.reserveQuote_cases called with ⟨-, rfl⟩ | ⟨_, _, -, -, -, wrong⟩
                · exact .refused _ _ _ _
                    (.reserve key request scenario now clock payoutId error called)
                · cases wrong
              · rename_i payout after called
                cases acted
                exact .reserved key request scenario now clock payoutId payout after called
      | _ => cases acted
  | begin_ scenario payout =>
      cases action with
      | write now =>
          simp only [PayoutPhase.act] at acted
          split at acted
          · rename_i error after called
            cases acted
            cases advancePayout_error called
            exact .refused _ _ _ _ (.advance origin _ payout .pending now error rfl called)
          · rename_i row changed after called
            cases acted
            exact .advanced origin (.begin_ scenario payout) payout .pending now row changed after
              rfl called
      | _ => cases acted
  | finish payout next =>
      cases action with
      | write now =>
          simp only [PayoutPhase.act] at acted
          split at acted
          · rename_i error after called
            cases acted
            cases advancePayout_error called
            exact .refused _ _ _ _ (.advance origin _ payout next now error rfl called)
          · rename_i row changed after called
            cases acted
            exact .advanced origin (.finish payout next) payout next now row changed after rfl
              called
      | _ => cases acted
  | succeed payout =>
      cases action with
      | write now =>
          simp only [PayoutPhase.act] at acted
          split at acted
          · rename_i error after called
            cases acted
            cases advancePayout_error called
            exact .refused _ _ _ _ (.advance origin _ payout .succeeded now error rfl called)
          · rename_i row changed after called
            have moved : outcome =
                (PayoutPhase.succeed payout).advanced after projectId origin row := by
              cases settled : payout.settlementBolt11 with
              | none =>
                  rw [settled] at acted
                  simp only [PayoutPhase.advanced, settled]
                  exact (Option.some.inj acted).symm
              | some invoice =>
                  rw [settled] at acted
                  simp only [PayoutPhase.advanced, settled]
                  exact (Option.some.inj acted).symm
            rw [moved]
            exact .advanced origin (.succeed payout) payout .succeeded now row changed after rfl
              called
      | _ => cases acted
  | price done invoice =>
      cases action with
      | read =>
          simp only [PayoutPhase.act] at acted
          split at acted
          · rename_i error missing
            cases acted
            exact .refused _ _ _ _ (.price origin done invoice error missing)
          · rename_i quote found
            cases acted
            exact .priced origin done invoice quote found
      | _ => cases acted
  | call done request => cases action <;> cases acted
  | pay done => cases action <;> cases acted
  | attach done payment =>
      cases action with
      | write now =>
          simp only [PayoutPhase.act] at acted
          split at acted
          · rename_i error after called
            cases acted
            cases attachPaymentToPayout_error called
            exact .refused _ _ _ _ (.attach origin done payment now error called)
          · rename_i after called
            cases acted
            exact .attached origin done payment now after called
      | _ => cases acted
  | fetch done =>
      cases action with
      | read =>
          simp only [PayoutPhase.act] at acted
          split at acted
          · rename_i error missing
            cases acted
            exact .refused _ _ _ _ (.fetch origin done error missing)
          · rename_i payout found
            cases acted
            exact .fetched origin done payout found
      | _ => cases acted
  | find =>
      cases action with
      | read =>
          cases origin with
          | create key request => cases acted
          | reconcile id outcome =>
              simp only [PayoutPhase.act] at acted
              split at acted
              · rename_i error missing
                cases acted
                exact .refused _ _ _ _ (.find id outcome error missing)
              · rename_i payout found
                split at acted
                · rename_i error decided
                  cases acted
                  exact .refused _ _ _ _ (.outcome id outcome payout error found decided)
                · rename_i phase decided
                  cases acted
                  exact .found id outcome payout phase found decided
      | _ => cases acted
  | show_ payout =>
      cases action with
      | read =>
          simp only [PayoutPhase.act] at acted
          split at acted
          · cases acted
            exact .shown origin payout
          · rename_i paymentId attached
            split at acted
            · rename_i error missing
              cases acted
              exact .refused _ _ _ _ (.payment origin payout paymentId error attached missing)
            · cases acted
              exact .shown origin payout
      | _ => cases acted

/-! ## The steps of the service -/

/-- The phase a request starts in. -/
def Origin.start : Origin → PayoutPhase
  | .create _ _ => .lookup
  | .reconcile _ _ => .find

/-- The sandbox calls that are no step of a payout request: a quote that was priced,
and a top-up. -/
def Call.Serves (call : Call) : Prop :=
  call.isSandbox = true →
    (∃ now clock id projectId request new, call = .insertQuote now id new ∧
      QuoteRequest.newQuote request projectId clock = .ok new) ∨
    ∃ projectId currency minor, call = .creditSandboxBalance projectId currency minor

inductive Served (env : Env) (service : Service) : ServiceAction → Service → Prop where
  | engine (slot : ℕ) (action : TaskAction) (outcome : Outcome)
      (free : service.routes slot = .idle)
      (acted : (service.world.tasks slot).act env service.db action = some outcome) :
      Served env service (.engine slot action)
        { service with world := service.world.put slot outcome }
  | started (slot : ℕ) (action : PayoutAction) (projectId : String) (origin : Origin)
      (free : service.routes slot = .idle) (idle : service.world.tasks slot = .idle) :
      Served env service (.payout slot action)
        (service.put slot ⟨service.db, .payout projectId origin origin.start, []⟩)
  | proceeded (slot : ℕ) (action : PayoutAction) (projectId : String) (origin : Origin)
      (phase : PayoutPhase) (outcome : RouteOutcome)
      (here : service.routes slot = .payout projectId origin phase)
      (proceeds : Proceeds env service.db projectId origin phase action outcome) :
      Served env service (.payout slot action) (service.put slot outcome)
  | called (slot : ℕ) (projectId : String) (origin : Origin) (done : PayoutRecord)
      (request : SendRequest)
      (here : service.routes slot = .payout projectId origin (.call done request))
      (idle : service.world.tasks slot = .idle) :
      Served env service (.payout slot .call)
        (service.putSend slot
          ⟨service.db, .send projectId (payoutKey done.id) (.parse request), []⟩
          ⟨service.db, .payout projectId origin (.pay done), []⟩)
  | paid (slot : ℕ) (projectId : String) (origin : Origin) (done : PayoutRecord)
      (action : TaskAction) (outcome : Outcome) (route : RouteOutcome)
      (here : service.routes slot = .payout projectId origin (.pay done))
      (acted : (service.world.tasks slot).act env service.db action = some outcome)
      (after : Service.afterSend projectId origin done outcome = some route) :
      Served env service (.payout slot (.pay action)) (service.putSend slot outcome route)
  | cancelled (slot : ℕ) (projectId : String) (origin : Origin) (phase : PayoutPhase)
      (here : service.routes slot = .payout projectId origin phase) :
      Served env service (.payout slot .cancel)
        (service.putSend slot ⟨service.db, .idle, []⟩ ⟨service.db, .idle, []⟩)
  | performed (action : ServiceAction) (call : Call) (engine : call.isEngine = false)
      (own : call.Serves) :
      Served env service action
        { service with world := { service.world with db := service.db.perform call } }
  | refused (action : ServiceAction) : Served env service action service
  | crashed : Served env service .crash
      { service with
        world := { service.world with tasks := fun _ => .idle }
        routes := fun _ => .idle }

theorem served_of_call {env : Env} {service next : Service} {call : Call} (action : ServiceAction)
    (own : call.Serves) (made : service.call env call = some next) :
    Served env service action next := by
  obtain ⟨world, step, rfl⟩ := Option.map_eq_some_iff.mp made
  simp only [World.step] at step
  split at step
  · cases step
  · rename_i engine
    cases step
    exact .performed action call (Bool.not_eq_true _ ▸ engine) own

theorem served_of_stepPayout {env : Env} {service next : Service} {slot : ℕ} {route : Route}
    (here : service.routes slot = route) {action : PayoutAction}
    (step : service.stepPayout env slot route action = some next) :
    Served env service (.payout slot action) next := by
  cases route with
  | idle =>
      cases action with
      | create projectId key request =>
          simp only [Service.stepPayout] at step
          split at step
          · rename_i idle
            cases step
            exact .started slot _ projectId (.create key request) here idle
          · cases step
      | reconcile projectId id outcome =>
          simp only [Service.stepPayout] at step
          split at step
          · rename_i idle
            cases step
            exact .started slot _ projectId (.reconcile id outcome) here idle
          · cases step
      | _ => cases step
  | payout projectId origin phase =>
      have outside : ((phase.act env service.db projectId origin action).map fun outcome =>
          service.put slot outcome) = some next →
        Served env service (.payout slot action) next := by
        intro moved
        obtain ⟨outcome, acted, rfl⟩ := Option.map_eq_some_iff.mp moved
        exact .proceeded slot action projectId origin phase outcome here (proceeds_of_act acted)
      cases action with
      | cancel =>
          cases step
          exact .cancelled slot projectId origin phase here
      | call =>
          cases phase with
          | call done request =>
              simp only [Service.stepPayout] at step
              split at step
              · rename_i idle
                cases step
                exact .called slot projectId origin done request here idle
              · cases step
          | _ => exact outside step
      | pay action =>
          cases phase with
          | pay done =>
              simp only [Service.stepPayout] at step
              split at step
              · cases step
              · rename_i outcome acted
                obtain ⟨route, after, rfl⟩ := Option.map_eq_some_iff.mp step
                exact .paid slot projectId origin done action outcome route here acted after
          | _ => exact outside step
      | _ => exact outside step

/-- **A step of the service is one of the listed ones.** -/
theorem served_of_step {env : Env} {service next : Service} {action : ServiceAction}
    (step : (payouts env).step service action = some next) : Served env service action next := by
  cases action with
  | engine slot action =>
      simp only [payouts, Service.step] at step
      split at step
      · cases step
      · rename_i free
        obtain ⟨world, stepped, rfl⟩ := Option.map_eq_some_iff.mp step
        obtain ⟨outcome, acted, rfl⟩ := Option.map_eq_some_iff.mp stepped
        exact .engine slot action outcome free acted
  | payout slot action => exact served_of_stepPayout rfl step
  | createQuote now clock id projectId request =>
      simp only [payouts, Service.step] at step
      split at step
      · cases step
        exact .refused _
      · rename_i new priced
        exact served_of_call _ (fun _ => .inl ⟨_, _, _, _, _, new, rfl, priced⟩) step
  | topup projectId request =>
      simp only [payouts, Service.step] at step
      split at step
      · cases step
        exact .refused _
      · exact served_of_call _ (fun _ => .inr ⟨_, _, _, rfl⟩) step
  | other call =>
      simp only [payouts, Service.step] at step
      split at step
      · cases step
      · rename_i own
        exact served_of_call _ (fun sandbox => absurd sandbox own) step
  | crash =>
      cases step
      exact .crashed

/-! ## The daemon under the service -/

/-- A step of a payout request makes at most one storage call. -/
theorem Proceeds.perform {env : Env} {db : Db} {projectId : String} {origin : Origin}
    {phase : PayoutPhase} {action : PayoutAction} {outcome : RouteOutcome}
    (proceeds : Proceeds env db projectId origin phase action outcome) :
    outcome.db = db ∨ ∃ call : Call, call.isEngine = false ∧ outcome.db = db.perform call := by
  cases proceeds with
  | reserved key request scenario now clock payoutId payout after called =>
      refine .inr ⟨.reservePayout now clock
        (request.reservation projectId key scenario payoutId), rfl, ?_⟩
      rcases Db.reserveQuote_cases called with ⟨⟨error, wrong⟩, -⟩ | ⟨quote, row, -, -, written, -⟩
      · cases wrong
      · have missing := Db.findPayoutByKey_of_written written
        simp only [Db.perform, Db.reservePayout_eq, missing, called]
  | advanced _ _ payout next now row changed after target called =>
      refine .inr ⟨.advancePayout now payout.id next, rfl, ?_⟩
      rw [PayoutPhase.advanced_db, Db.perform, called]
  | attached _ done payment now after called =>
      refine .inr ⟨.attachPaymentToPayout now done.id payment.id, rfl, ?_⟩
      rw [Db.perform, called]
  | fetched _ done payout found => exact .inl (conclude_db db projectId origin payout)
  | _ => exact .inl rfl

/-- A step of the service is a step of the daemon, or none. -/
theorem Served.world {env : Env} {service next : Service} {action : ServiceAction}
    (served : Served env service action next) :
    next.world = service.world ∨
      ∃ action, (daemon env).step service.world action = some next.world := by
  cases served with
  | engine slot action outcome free acted =>
      refine .inr ⟨.act slot action, ?_⟩
      exact Option.map_eq_some_iff.mpr ⟨outcome, acted, rfl⟩
  | started slot action projectId origin free idle => exact .inl rfl
  | proceeded slot action projectId origin phase outcome here proceeds =>
      rcases proceeds.perform with same | ⟨call, other, same⟩
      · left
        simp only [Service.put, same, Service.db]
      · right
        refine ⟨.call call, ?_⟩
        simp only [daemon, World.step, other, Service.put, same, Service.db]
        rfl
  | called slot projectId origin done request here idle =>
      refine .inr ⟨.act slot (.request projectId (payoutKey done.id) request), ?_⟩
      simp only [daemon, World.step, idle, Task.act, Option.map_some, Service.putSend, Service.db]
  | paid slot projectId origin done action outcome route here acted after =>
      refine .inr ⟨.act slot action, ?_⟩
      exact Option.map_eq_some_iff.mpr ⟨outcome, acted, rfl⟩
  | cancelled slot projectId origin phase here =>
      cases task : service.world.tasks slot with
      | idle =>
          left
          simp only [Service.putSend, World.put, ← task, Function.update_eq_self, Service.db,
            List.nil_append]
      | _ =>
          refine .inr ⟨.act slot .cancel, ?_⟩
          simp only [daemon, World.step, task, Task.act, Option.map_some, Service.putSend,
            Service.db]
  | performed action call engine own =>
      refine .inr ⟨.call call, ?_⟩
      simp only [daemon, World.step, engine, Service.db]
      rfl
  | refused action => exact .inl rfl
  | crashed => exact .inr ⟨.crash, rfl⟩

/-- **The engine of a running service is a running daemon.** -/
theorem engine_reachable {env : Env} {service : Service}
    (reached : (payouts env).Reachable service) : (daemon env).Reachable service.world := by
  refine reached.project Service.world ?_ ?_
  · rintro _ rfl
    rfl
  · intro service action next _ step
    exact (served_of_step step).world

end Safrod

import Safrod.Core.Sandbox
import Safrod.Engine.Daemon

/-!
# The sandbox routes

The requests that price, fund, create and reconcile simulated payouts, in
progress at once with everything the daemon does. A payout request runs in a slot
of its own: each of its storage calls is one step, and while it pays over
Lightning the slot of the engine with the same number runs `send_payment` for it.

`reserve_payout` takes two steps, since it looks for a prior payout without a
lock. From the lock of the quote on the transaction holds every row lock and
unique key it needs until it commits, so the rest is one step.

The log records, newest first, what the node was asked to pay for a payout and
how requests were answered, for the statements about runs.
-/

set_option autoImplicit false

namespace Safrod

def SandboxError.toApiError (error : SandboxError) : ApiError := .validation error.toText

/-! ## Balances and quotes -/

def maxTopupMinor : ℕ := 1_000_000_000_000

structure TopUp where
  currency : String
  minorUnits : ℕ

/-- The currency a top-up credits, once the request is checked. -/
def TopUp.check (request : TopUp) : Except ApiError Currency := do
  let currency ← (Currency.parse request.currency).mapError SandboxError.toApiError
  if request.minorUnits = 0 ∨ maxTopupMinor < request.minorUnits then
    .error (.validation "minor_units is out of range")
  else return currency

def quoteTtlSecs : ℕ := 300

structure QuoteRequest where
  sourceCurrency : String
  sourceMinor : ℕ
  targetCurrency : String

/-- The quote `create_quote` stores. -/
def QuoteRequest.newQuote (request : QuoteRequest) (projectId : String) (clock : DateTime) :
    Except ApiError NewQuote := do
  let source ← (Currency.parse request.sourceCurrency).mapError SandboxError.toApiError
  let target ← (Currency.parse request.targetCurrency).mapError SandboxError.toApiError
  let priced ← (quote source target request.sourceMinor).mapError SandboxError.toApiError
  return {
    projectId := projectId
    sourceCurrency := source.code
    targetCurrency := target.code
    sourceMinor := request.sourceMinor
    targetMinor := priced.targetMinor
    ratePpm := priced.ratePpm
    btcAmountMsat := priced.btcAmountMsat
    expiresAt := clock + quoteTtlSecs * 1_000_000 }

/-! ## Payout requests -/

structure PayoutRequest where
  quoteId : String
  scenario : String
  settlementInvoice : Option String
  deriving DecidableEq

/-- Where a payout request comes from. -/
inductive Origin where
  | create (idempotencyKey : String) (request : PayoutRequest)
  | reconcile (id outcome : String)

/-- The check of a settlement invoice against the quote it settles. -/
def checkSettlement (env : Env) (clock : DateTime) (quote : QuoteRecord) (invoice : String) :
    Except ApiError Unit := do
  let parsed ← (env.parseInvoice clock invoice).mapError LightningError.toApiError
  match parsed.amountMsat with
  | none => return ()
  | some amount =>
      if asI64 amount ≠ quote.btcAmountMsat then
        .error (.validation "settlement invoice amount does not match the quote's BTC amount")
      else return ()

def PayoutRequest.reservation (request : PayoutRequest) (projectId idempotencyKey : String)
    (scenario : Scenario) (payoutId : String) : Reservation where
  payoutId := payoutId
  projectId := projectId
  quoteId := request.quoteId
  idempotencyKey := idempotencyKey
  scenario := scenario.asStr
  settlementBolt11 := request.settlementInvoice

/-- `sandbox-payout:{id}`. -/
def payoutKey (payoutId : String) : String := "sandbox-payout:" ++ payoutId

/-- The payment of a payout. -/
def settlementRequest (payoutId invoice : String) (quote : QuoteRecord) : SendRequest where
  bolt11 := invoice
  amountMsat := some (asU64 quote.btcAmountMsat)
  metadata := .object [("sandbox_payout_id", .string payoutId)]

def quoteNotFound : StorageError → ApiError
  | .notFound => .notFound "quote"
  | other => other.toApiError

def payoutNotFound : StorageError → ApiError
  | .notFound => .notFound "payout"
  | other => other.toApiError

/-! ## The steps of a payout request -/

/-- Where a payout request stands. -/
inductive PayoutPhase where
  /-- `create_payout`, up to the call that looks for a prior payout. -/
  | lookup
  | checkInvoice (scenario : Scenario) (quote : QuoteRecord) (invoice : String)
  | findPrior (scenario : Scenario)
  | reserve (scenario : Scenario)
  /-- `run_payout`: the payout becomes pending, and then what the scenario says. -/
  | begin_ (scenario : Scenario) (payout : PayoutRecord)
  | finish (payout : PayoutRecord) (next : PayoutStatus)
  /-- `complete_success`: the payout becomes succeeded, and then it is paid. -/
  | succeed (payout : PayoutRecord)
  | price (done : PayoutRecord) (invoice : String)
  | call (done : PayoutRecord) (request : SendRequest)
  | pay (done : PayoutRecord)
  | attach (done : PayoutRecord) (payment : PaymentRecord)
  | fetch (done : PayoutRecord)
  /-- `reconcile_payout`, up to the outcome, and from there on. -/
  | find
  | show_ (payout : PayoutRecord)

inductive Route where
  | idle
  | payout (projectId : String) (origin : Origin) (phase : PayoutPhase)

structure PayoutAnswer where
  payout : PayoutRecord
  created : Bool

inductive PayoutEntry where
  /-- The node was asked to pay for a payout. -/
  | asked (payoutId bolt11 : String) (amountMsat : Option ℕ)
  /-- A request was answered, when a payout was stored under its key or not. -/
  | answered (projectId : String) (origin : Origin) (stored : Option PayoutRecord)
      (answer : Except ApiError PayoutAnswer)

inductive PayoutAction where
  | create (projectId idempotencyKey : String) (request : PayoutRequest)
  | reconcile (projectId id outcome : String)
  | read
  | check (clock : DateTime)
  | reserve (now clock : DateTime) (payoutId : String)
  | write (now : DateTime)
  | call
  | pay (action : TaskAction)
  | cancel

/-- What a step of a payout request leaves. -/
structure RouteOutcome where
  db : Db
  route : Route
  entries : List PayoutEntry := []

/-- The payout stored under the key of a request. -/
def Origin.stored (db : Db) (projectId : String) : Origin → Option PayoutRecord
  | .create idempotencyKey _ => db.findPayoutByKey projectId idempotencyKey
  | .reconcile id _ => db.findPayout id

/-- A request ends with an answer. -/
def answerWith (db : Db) (projectId : String) (origin : Origin)
    (answer : Except ApiError PayoutAnswer) : RouteOutcome :=
  ⟨db, .idle, [.answered projectId origin (origin.stored db projectId) answer]⟩

def answerError (db : Db) (projectId : String) (origin : Origin) (error : ApiError) :
    RouteOutcome :=
  answerWith db projectId origin (.error error)

/-- What is left to do with a payout that was resolved: `create_payout` answers
with it, and `reconcile_payout` looks its payment up first. -/
def conclude (db : Db) (projectId : String) (origin : Origin) (payout : PayoutRecord) :
    RouteOutcome :=
  match origin with
  | .create _ _ => answerWith db projectId origin (.ok ⟨payout, true⟩)
  | .reconcile _ _ => ⟨db, .payout projectId origin (.show_ payout), []⟩

/-- A settlement invoice is checked before anything is stored. -/
def afterLookup (request : PayoutRequest) (scenario : Scenario) (quote : QuoteRecord) :
    PayoutPhase :=
  match request.settlementInvoice with
  | none => .findPrior scenario
  | some invoice => .checkInvoice scenario quote invoice

/-- What a scenario does once the payout is pending. -/
def afterPending (pending : PayoutRecord) : Scenario → PayoutPhase
  | .failure => .finish pending .failed
  -- a timeout does not prove that the destination failed to pay out
  | .timeout => .finish pending .unknown
  | .success => .succeed pending

/-- What a reconciliation does with the outcome it is told. -/
def afterFound (payout : PayoutRecord) (outcome : String) : Except ApiError PayoutPhase :=
  if payout.status ≠ .unknown then
    .error (.conflict "invalid_state" "only an unknown payout can be reconciled")
  else if outcome = "success" then .ok (.succeed payout)
  else if outcome = "failure" then .ok (.finish payout .failed)
  else .error (.validation "outcome must be success or failure")

def PayoutPhase.act (env : Env) (db : Db) (projectId : String) (origin : Origin) :
    PayoutPhase → PayoutAction → Option RouteOutcome
  | .lookup, .read =>
      match origin with
      | .reconcile _ _ => none
      | .create _ request =>
          match Scenario.parse request.scenario with
          | .error error => some (answerError db projectId origin error.toApiError)
          | .ok scenario =>
              match db.getQuote projectId request.quoteId with
              | .error error => some (answerError db projectId origin (quoteNotFound error))
              | .ok quote =>
                  some ⟨db, .payout projectId origin (afterLookup request scenario quote), []⟩
  | .checkInvoice scenario quote invoice, .check clock =>
      match checkSettlement env clock quote invoice with
      | .error error => some (answerError db projectId origin error)
      | .ok () => some ⟨db, .payout projectId origin (.findPrior scenario), []⟩
  | .findPrior scenario, .read =>
      match origin with
      | .reconcile _ _ => none
      | .create idempotencyKey request =>
          match db.findPayoutByKey projectId idempotencyKey with
          | none => some ⟨db, .payout projectId origin (.reserve scenario), []⟩
          | some prior =>
              match Db.replayPayout (request.reservation projectId idempotencyKey scenario "")
                  prior with
              | .error error => some (answerError db projectId origin error.toApiError)
              | .ok payout => some (answerWith db projectId origin (.ok ⟨payout, false⟩))
  | .reserve scenario, .reserve now clock payoutId =>
      match origin with
      | .reconcile _ _ => none
      | .create idempotencyKey request =>
          match Db.reserveQuote now clock
              (request.reservation projectId idempotencyKey scenario payoutId) db with
          | (.error error, after) => some (answerError after projectId origin error.toApiError)
          | (.ok payout, after) =>
              some ⟨after, .payout projectId origin (.begin_ scenario payout), []⟩
  | .begin_ scenario payout, .write now =>
      match Db.advancePayout now payout.id .pending db with
      | (.error error, after) => some (answerError after projectId origin error.toApiError)
      | (.ok (pending, _), after) =>
          some ⟨after, .payout projectId origin (afterPending pending scenario), []⟩
  | .finish payout next, .write now =>
      match Db.advancePayout now payout.id next db with
      | (.error error, after) => some (answerError after projectId origin error.toApiError)
      | (.ok (row, _), after) => some (conclude after projectId origin row)
  | .succeed payout, .write now =>
      match Db.advancePayout now payout.id .succeeded db with
      | (.error error, after) => some (answerError after projectId origin error.toApiError)
      | (.ok (done, _), after) =>
          match payout.settlementBolt11 with
          | none => some (conclude after projectId origin done)
          | some invoice => some ⟨after, .payout projectId origin (.price done invoice), []⟩
  | .price done invoice, .read =>
      match db.getQuote projectId done.quoteId with
      | .error error => some (answerError db projectId origin error.toApiError)
      | .ok quote =>
          some ⟨db, .payout projectId origin
            (.call done (settlementRequest done.id invoice quote)), []⟩
  | .attach done payment, .write now =>
      match Db.attachPaymentToPayout now done.id payment.id db with
      | (.error error, after) => some (answerError after projectId origin error.toApiError)
      | (.ok (), after) => some ⟨after, .payout projectId origin (.fetch done), []⟩
  | .fetch done, .read =>
      match db.getPayout projectId done.id with
      | .error error => some (answerError db projectId origin error.toApiError)
      | .ok payout => some (conclude db projectId origin payout)
  | .find, .read =>
      match origin with
      | .create _ _ => none
      | .reconcile id outcome =>
          match db.getPayout projectId id with
          | .error error => some (answerError db projectId origin (payoutNotFound error))
          | .ok payout =>
              match afterFound payout outcome with
              | .error error => some (answerError db projectId origin error)
              | .ok phase => some ⟨db, .payout projectId origin phase, []⟩
  | .show_ payout, .read =>
      match payout.paymentId with
      | none => some (answerWith db projectId origin (.ok ⟨payout, false⟩))
      | some paymentId =>
          match db.getPayment projectId paymentId with
          | .error error => some (answerError db projectId origin error.toApiError)
          | .ok _ => some (answerWith db projectId origin (.ok ⟨payout, false⟩))
  | _, _ => none

/-! ## The machine -/

/-- The daemon, and the payout requests in progress. -/
structure Service where
  world : World := {}
  routes : ℕ → Route := fun _ => .idle
  log : List PayoutEntry := []

inductive ServiceAction where
  /-- A step of the engine in a slot that no payout request uses. -/
  | engine (slot : ℕ) (action : TaskAction)
  | payout (slot : ℕ) (action : PayoutAction)
  | createQuote (now clock : DateTime) (id projectId : String) (request : QuoteRequest)
  | topup (projectId : String) (request : TopUp)
  /-- A call of a route that has nothing to do with the sandbox. -/
  | other (call : Call)
  | crash

/-- What a step of `send_payment` returned, if it did. -/
def sendResult (entries : List Entry) : Option (Except ApiError SendResult) :=
  entries.findSome? fun
    | .returned _ _ result => some result
    | _ => none

/-- What a step of `send_payment` for a payout asked of the node. -/
def askedFor (payoutId : String) (entries : List Entry) : List PayoutEntry :=
  entries.filterMap fun
    | .dispatched _ _ _ _ bolt11 amountMsat _ => some (.asked payoutId bolt11 amountMsat)
    | _ => none

namespace Service

def db (service : Service) : Db := service.world.db

/-- The service after a step of a payout request that the engine has no part in. -/
def put (service : Service) (slot : ℕ) (outcome : RouteOutcome) : Service where
  world := { service.world with db := outcome.db }
  routes := Function.update service.routes slot outcome.route
  log := outcome.entries ++ service.log

/-- The service after a step of `send_payment` in the slot of a payout request. -/
def putSend (service : Service) (slot : ℕ) (outcome : Outcome) (route : RouteOutcome) :
    Service where
  world := service.world.put slot outcome
  routes := Function.update service.routes slot route.route
  log := route.entries ++ service.log

/-- What a step of `send_payment` means for the payout request it runs for. -/
def afterSend (projectId : String) (origin : Origin) (done : PayoutRecord) (outcome : Outcome) :
    Option RouteOutcome :=
  let asked := askedFor done.id outcome.entries
  match sendResult outcome.entries with
  | some (.ok sent) =>
      some ⟨outcome.db, .payout projectId origin (.attach done sent.payment), asked⟩
  | some (.error error) =>
      let ended := answerError outcome.db projectId origin error
      some { ended with entries := ended.entries ++ asked }
  | none =>
      match outcome.task with
      | .send _ _ _ => some ⟨outcome.db, .payout projectId origin (.pay done), asked⟩
      | _ => none

def stepPayout (env : Env) (service : Service) (slot : ℕ) : Route → PayoutAction → Option Service
  | .idle, .create projectId idempotencyKey request =>
      match service.world.tasks slot with
      | .idle => some (service.put slot
          ⟨service.db, .payout projectId (.create idempotencyKey request) .lookup, []⟩)
      | _ => none
  | .idle, .reconcile projectId id outcome =>
      match service.world.tasks slot with
      | .idle => some (service.put slot
          ⟨service.db, .payout projectId (.reconcile id outcome) .find, []⟩)
      | _ => none
  | .idle, _ => none
  | .payout _ _ _, .cancel =>
      some (service.putSend slot ⟨service.db, .idle, []⟩ ⟨service.db, .idle, []⟩)
  | .payout projectId origin (.call done request), .call =>
      match service.world.tasks slot with
      | .idle => some (service.putSend slot
          ⟨service.db, .send projectId (payoutKey done.id) (.parse request), []⟩
          ⟨service.db, .payout projectId origin (.pay done), []⟩)
      | _ => none
  | .payout projectId origin (.pay done), .pay action =>
      match (service.world.tasks slot).act env service.db action with
      | none => none
      | some outcome =>
          (afterSend projectId origin done outcome).map fun route =>
            service.putSend slot outcome route
  | .payout projectId origin phase, action =>
      (phase.act env service.db projectId origin action).map fun outcome =>
        service.put slot outcome

/-- A storage call of its own. -/
def call (env : Env) (service : Service) (call : Call) : Option Service :=
  (service.world.step env (.call call)).map fun world => { service with world := world }

def step (env : Env) (service : Service) : ServiceAction → Option Service
  | .engine slot action =>
      match service.routes slot with
      | .payout _ _ _ => none
      | .idle =>
          (service.world.step env (.act slot action)).map fun world =>
            { service with world := world }
  | .payout slot action => service.stepPayout env slot (service.routes slot) action
  | .createQuote now clock id projectId request =>
      match request.newQuote projectId clock with
      | .error _ => some service
      | .ok new => service.call env (.insertQuote now id new)
  | .topup projectId request =>
      match request.check with
      | .error _ => some service
      | .ok currency =>
          service.call env (.creditSandboxBalance projectId currency.code request.minorUnits)
  | .other other => if other.isSandbox then none else service.call env other
  | .crash =>
      some { service with
        world := { service.world with tasks := fun _ => .idle }
        routes := fun _ => .idle }

end Service

/-- Runs of the service on a database that starts empty. -/
def payouts (env : Env) : Machine Service ServiceAction where
  initial service := service = {}
  step := Service.step env

/-- A step of a sandbox request that runs to its end. -/
def ServiceAction.ofSandbox : ServiceAction → Bool
  | .payout _ .cancel => false
  | .payout _ _ | .createQuote _ _ _ _ _ | .topup _ _ => true
  | _ => false

/-- A run of sandbox requests that run to their end. -/
theorem reachable_ofSandbox {env : Env} {service later : Service} {actions : List ServiceAction}
    (reached : (payouts env).ReachableBy (fun _ action => action.ofSandbox = true) service)
    (own : actions.all ServiceAction.ofSandbox = true)
    (ran : (payouts env).run service actions = some later) :
    (payouts env).ReachableBy (fun _ action => action.ofSandbox = true) later :=
  Machine.reachableBy_of_run reached
    (Machine.stepsMeet_of_forall (fun action member _ => List.all_eq_true.mp own action member) _)
    ran

theorem Service.step_check {env : Env} {service : Service} {projectId invoice : String}
    {origin : Origin} {scenario : Scenario} {quote : QuoteRecord} (slot : ℕ) (clock : DateTime)
    (here : service.routes slot = .payout projectId origin (.checkInvoice scenario quote invoice))
    (checked : checkSettlement env clock quote invoice = .ok ()) :
    (payouts env).step service (.payout slot (.check clock)) =
      some (service.put slot ⟨service.db, .payout projectId origin (.findPrior scenario), []⟩) := by
  simp only [payouts, Service.step, here, Service.stepPayout, PayoutPhase.act, checked,
    Option.map_some]

theorem Service.step_parse {env : Env} {service : Service} {projectId key : String}
    {origin : Origin} {done : PayoutRecord} {request : SendRequest} (slot : ℕ) (clock : DateTime)
    {prepared : Prepared}
    (here : service.routes slot = .payout projectId origin (.pay done))
    (sending : service.world.tasks slot = .send projectId key (.parse request))
    (done_ : prepare env clock request = .ok prepared) :
    (payouts env).step service (.payout slot (.pay (.parse clock))) =
      some (service.putSend slot ⟨service.db, .send projectId key (.begin_ request prepared), []⟩
        ⟨service.db, .payout projectId origin (.pay done), []⟩) := by
  simp only [payouts, Service.step, here, Service.stepPayout, sending, Task.act, SendPhase.act,
    done_, Service.afterSend, sendResult, askedFor, List.findSome?_nil, List.filterMap_nil,
    Option.map_some]

theorem Service.step_parse_error {env : Env} {service : Service} {projectId key : String}
    {origin : Origin} {done : PayoutRecord} {request : SendRequest} (slot : ℕ) (clock : DateTime)
    {error : ApiError}
    (here : service.routes slot = .payout projectId origin (.pay done))
    (sending : service.world.tasks slot = .send projectId key (.parse request))
    (failed : prepare env clock request = .error error) :
    (payouts env).step service (.payout slot (.pay (.parse clock))) =
      some (service.putSend slot ⟨service.db, .idle, [.returned projectId key (.error error)]⟩
        (answerError service.db projectId origin error)) := by
  simp only [payouts, Service.step, here, Service.stepPayout, sending, Task.act, SendPhase.act,
    failed, Service.afterSend, sendResult, askedFor, List.findSome?_cons, List.filterMap_cons,
    List.filterMap_nil, List.append_nil, Option.map_some]

/-! ## A payout on regtest -/

/-- The digest of the invoice, its amount and the metadata of the payout. -/
def settlementDigest : List UInt8 :=
  [110, 41, 245, 151, 231, 243, 134, 63, 149, 63, 152, 159, 99, 52, 209, 162, 241, 166, 225, 147,
    255, 171, 76, 54, 177, 146, 54, 91, 49, 172, 99, 244]

/-- The other packages, as far as this invoice and the metadata of the payout go. -/
def settlementEnv : Env :=
  .ldk regtestDecode .regtest (fun _ => settlementDigest)
    (fun _ => "\x7b\"sandbox_payout_id\":\"pot_1\"\x7d")

def regtestQuote : QuoteRequest where
  sourceCurrency := "USD"
  sourceMinor := 300
  targetCurrency := "EUR"

def regtestQuoteRow : QuoteRecord where
  id := "qte_1"
  projectId := "prj_1"
  sourceCurrency := "USD"
  targetCurrency := "EUR"
  sourceMinor := 300
  targetMinor := 273
  ratePpm := 920_000
  btcAmountMsat := 5_000_000
  status := .open_
  expiresAt := regtestMade + 300_000_000
  createdAt := regtestMade

/-- Three dollars, and a quote for them. -/
def funded : Service where
  world.db.sandboxBalances := [⟨"prj_1", "USD", 300⟩]
  world.db.sandboxQuotes := [regtestQuoteRow]

def fundedActions : List ServiceAction :=
  [.topup "prj_1" ⟨"USD", 300⟩,
    .createQuote regtestMade regtestMade "qte_1" "prj_1" regtestQuote]

theorem run_fundedActions (env : Env) :
    (payouts env).run {} fundedActions = some funded := by
  have usd : Currency.parse "USD" = .ok .usd := Currency.parse_code .usd
  have eur : Currency.parse "EUR" = .ok .eur := Currency.parse_code .eur
  have checked : TopUp.check ⟨"USD", 300⟩ = .ok .usd := by
    rw [TopUp.check, usd]
    rfl
  have priced : regtestQuote.newQuote "prj_1" regtestMade = .ok {
      projectId := "prj_1"
      sourceCurrency := "USD"
      targetCurrency := "EUR"
      sourceMinor := 300
      targetMinor := 273
      ratePpm := 920_000
      btcAmountMsat := 5_000_000
      expiresAt := regtestMade + 300_000_000 } := by
    rw [QuoteRequest.newQuote, regtestQuote, usd, eur]
    rfl
  simp only [fundedActions, Machine.run, payouts, Service.step, checked]
  simp [priced]
  rfl

def regtestPayout (scenario : Scenario) : PayoutRequest where
  quoteId := "qte_1"
  scenario := scenario.asStr
  settlementInvoice := some regtestBolt11

/-- A payout without a settlement invoice, that times out. -/
def plainPayout : PayoutRequest where
  quoteId := "qte_1"
  scenario := "timeout"
  settlementInvoice := none

theorem checkSettlement_regtest {clock : DateTime} {quote : QuoteRecord}
    (valid : ¬ regtestInvoice.isExpired clock) (amount : quote.btcAmountMsat = 5_000_000) :
    checkSettlement settlementEnv clock quote regtestBolt11 = .ok () := by
  have same : ¬ asI64 5_000_000 ≠ quote.btcAmountMsat := by
    rw [amount]
    decide
  rw [checkSettlement, settlementEnv, parseInvoice_regtest, if_neg valid]
  exact if_neg same

def settlementPrepared : Prepared where
  bolt11 := regtestBolt11
  paymentHash := regtestInvoice.paymentHash
  amountMsat := 5_000_000
  amountForNode := none
  requestHash := settlementDigest
  metadata := .object [("sandbox_payout_id", .string "pot_1")]

theorem prepare_settlement {now : DateTime} {quote : QuoteRecord}
    (amount : quote.btcAmountMsat = 5_000_000) :
    prepare settlementEnv now (settlementRequest "pot_1" regtestBolt11 quote) =
      if regtestInvoice.isExpired now then .error LightningError.invoiceExpired.toApiError
      else .ok settlementPrepared := by
  have trimmed : trim (settlementRequest "pot_1" regtestBolt11 quote).bolt11 = regtestBolt11 :=
    trim_regtestBolt11
  have given : (settlementRequest "pot_1" regtestBolt11 quote).amountMsat = some 5_000_000 := by
    rw [settlementRequest, amount]
    rfl
  simp only [prepare, trimmed, given]
  rw [settlementEnv, parseInvoice_regtest]
  split
  · rfl
  · rfl

end Safrod

import Safrod.Api.Admin
import Safrod.Api.PayoutProgress
import Safrod.Api.Views
import Safrod.Webhooks.Wire

/-!
# The clients' routes

The requests that write for the project of a key. A handler checks its request
(`ClientRequest.accept`), and what it does then is a task, a storage call or a node call at a
time (`ClientTask.act`). The steps of an invoice, a payment and a payout are those of
`InvoiceCall.act`, `Task.act` and `PayoutPhase.act`. Requests that only read are left out.

`Scope.permits` says what each scope is for. No handler writes anything else, or a row that it
did not find among those of its project (`ClientTask.act_written`).
-/

set_option autoImplicit false

namespace Safrod

open Table Text

/-! ## Requests -/

structure PaymentRequest where
  bolt11 : String
  amountMsat : Option ℕ
  metadata : Option Value

structure AddressRequest where
  label : String := ""
  requiredConfirmations : Option ℤ := none

structure EndpointRequest where
  url : String

structure ReconcileRequest where
  outcome : String

/-- A route with its path and body. The bytes are drawn for the secret of an endpoint. -/
inductive ClientRequest where
  | createInvoice (body : Body InvoiceRequest)
  | createPayment (body : Body PaymentRequest)
  | reconcilePayment (id : String)
  | createAddress (body : Body AddressRequest)
  | createEndpoint (body : Body EndpointRequest) (bytes : List UInt8)
  | disableEndpoint (id : String)
  | testEndpoint (id : String)
  | replayDelivery (id : String)
  | topup (body : Body TopUp)
  | createQuote (body : Body QuoteRequest)
  | createPayout (body : Body PayoutRequest)
  | reconcilePayout (id : String) (body : Body ReconcileRequest)

/-- The scope that the handler asks of the key. -/
def ClientRequest.scope : ClientRequest → Scope
  | createInvoice _ => .invoicesWrite
  | createPayment _ | reconcilePayment _ => .paymentsWrite
  | createAddress _ => .bitcoinWrite
  | createEndpoint _ _ | disableEndpoint _ | testEndpoint _ | replayDelivery _ => .webhooksWrite
  | topup _ | createQuote _ | createPayout _ | reconcilePayout _ _ => .sandboxWrite

/-! ## Tasks -/

/-- The storage call that a request ends with. -/
inductive LastCall where
  | createAddress (address label : String) (requiredConfirmations : ℤ)
  | createWebhookEndpoint (url secret : String)
  | disableWebhookEndpoint (id : String)
  | testEndpoint (id : String)
  | replayDelivery (id : String)
  | creditSandboxBalance (currency : String) (minor : ℕ)
  | insertQuote (request : QuoteRequest)

namespace LastCall

def scope : LastCall → Scope
  | createAddress _ _ _ => .bitcoinWrite
  | createWebhookEndpoint _ _ | disableWebhookEndpoint _ | testEndpoint _ | replayDelivery _ =>
      .webhooksWrite
  | creditSandboxBalance _ _ | insertQuote _ => .sandboxWrite

/-- The call at a time, with the identifier that was drawn. -/
def write (projectId : String) (now clock : DateTime) (id : String) :
    LastCall → Except ApiError ProjectWrite
  | createAddress address label requiredConfirmations =>
      .ok (.createAddress now id address label requiredConfirmations)
  | createWebhookEndpoint url secret => .ok (.createWebhookEndpoint now id url secret)
  | disableWebhookEndpoint endpointId => .ok (.disableWebhookEndpoint endpointId)
  | testEndpoint endpointId => .ok (.testEndpoint now endpointId)
  | replayDelivery deliveryId => .ok (.replayDelivery now deliveryId)
  | creditSandboxBalance currency minor => .ok (.creditSandboxBalance currency minor)
  | insertQuote request => (request.newQuote projectId clock).map (.insertQuote now id)

end LastCall

/-- Where a request stands that passed its checks. -/
inductive ClientTask where
  | invoice (call : InvoiceCall) (phase : InvoicePhase)
  /-- `reconcile_payment`, up to the lookup of the payment. -/
  | lookup (id : String)
  | engine (task : Task)
  | newAddress (label : String) (requiredConfirmations : ℤ)
  | findEndpoint (id : String)
  | last (call : LastCall)
  /-- A payout request, and the `send_payment` that runs for it. -/
  | payout (origin : Origin) (phase : PayoutPhase) (sending : Task)

/-- What the handlers use of the node and of other packages. -/
structure ClientEnv where
  engine : Env
  invoices : InvoiceEnv
  outside : Outside

namespace ClientRequest

/-- The checks of a handler, before it looks at the database. -/
def accept (app : AppState) (env : ClientEnv) (headers : HeaderMap) (projectId : String) :
    ClientRequest → Except ApiError ClientTask
  | createInvoice body => do
      let req ← body.parse
      let asked ← req.check env.invoices
      let idem ← idempotencyKey (headers "idempotency-key") false
      return .invoice ⟨projectId, idem, asked⟩ .find
  | createPayment body => do
      let req ← body.parse
      let idem ← idempotencyKey (headers "idempotency-key") true
      if 2048 < req.bolt11.utf8ByteSize then .error (.validation "bolt11 is too long")
      else
        let metadata ← checkMetadata env.invoices req.metadata
        return .engine (.send projectId (idem.getD "")
          (.parse ⟨req.bolt11, req.amountMsat, metadata⟩))
  | reconcilePayment raw => do
      let id ← resourceId .payment raw "payment"
      return .lookup id.asStr
  | createAddress body => do
      let req ← body.parseOrDefault {}
      if 100 < req.label.utf8ByteSize then .error (.validation "label is too long")
      else
        let confirmations := req.requiredConfirmations.getD app.config.defaultConfirmations
        if 1 ≤ confirmations ∧ confirmations ≤ 100 then
          return .newAddress req.label confirmations
        else .error (.validation "required_confirmations must be between 1 and 100")
  | createEndpoint body bytes => do
      let req ← body.parse
      if 2048 < req.url.utf8ByteSize then .error (.validation "url is too long")
      else
        match validateUrl env.outside req.url app.config.webhookAllowPrivate with
        | .error error => .error (.validation ("webhook url rejected: " ++ error.toText))
        | .ok _ =>
            return .last (.createWebhookEndpoint req.url
              ("whsec_" ++ String.ofList (hexEncode bytes)))
  | disableEndpoint id => .ok (.last (.disableWebhookEndpoint id))
  | testEndpoint id => .ok (.findEndpoint id)
  | replayDelivery id => .ok (.last (.replayDelivery id))
  | topup body => do
      let req ← body.parse
      let currency ← req.check
      return .last (.creditSandboxBalance currency.code req.minorUnits)
  | createQuote body => do
      let req ← body.parse
      return .last (.insertQuote req)
  | createPayout body => do
      let req ← body.parse
      let idem ← idempotencyKey (headers "idempotency-key") true
      return .payout (.create (idem.getD "") req) .lookup .idle
  | reconcilePayout id body => do
      let req ← body.parse
      return .payout (.reconcile id req.outcome) .find .idle

end ClientRequest

/-- What the next step of a task finds: what the node answers, the time and the identifier of a
new row. -/
inductive ClientAction where
  | read
  | invoice (action : InvoiceAction)
  | engine (action : TaskAction)
  | node (answer : Except LightningError String)
  | write (now clock : DateTime) (id : String)
  | payout (action : PayoutAction)

/-- What a step leaves, and where the request goes on if it was not answered. -/
structure ClientOutcome where
  db : Db
  next : Option ClientTask

namespace ClientTask

def ofEngine : Task → Option ClientTask
  | .idle => none
  | task => some (.engine task)

def ofRoute (sending : Task) : Route → Option ClientTask
  | .idle => none
  | .payout _ origin phase => some (.payout origin phase sending)

/-- A step of a payout request. While it pays, `send_payment` takes the steps. -/
def actPayout (env : Env) (db : Db) (projectId : String) (origin : Origin) (phase : PayoutPhase)
    (sending : Task) : PayoutAction → Option ClientOutcome
  | .call =>
      match phase with
      | .call done request => some ⟨db, some (.payout origin (.pay done)
          (.send projectId (payoutKey done.id) (.parse request)))⟩
      | _ => none
  | .pay action =>
      match phase with
      | .pay done =>
          match sending.act env db action with
          | none => none
          | some outcome =>
              (Service.afterSend projectId origin done outcome).map fun route =>
                ⟨route.db, ofRoute outcome.task route.route⟩
      | _ => none
  | action =>
      (phase.act env db projectId origin action).map fun outcome =>
        ⟨outcome.db, ofRoute sending outcome.route⟩

def act (env : ClientEnv) (db : Db) (projectId : String) :
    ClientTask → ClientAction → Option ClientOutcome
  | .invoice call phase, .invoice action =>
      (call.act env.invoices db phase action).map fun outcome =>
        ⟨outcome.db, outcome.next.getLeft?.map (.invoice call)⟩
  | .lookup id, .read =>
      (Task.idle.act env.engine db (.reconcile projectId id)).map fun outcome =>
        ⟨outcome.db, ofEngine outcome.task⟩
  | .engine task, .engine action =>
      (task.act env.engine db action).map fun outcome => ⟨outcome.db, ofEngine outcome.task⟩
  | .newAddress _ _, .node (.error _) => some ⟨db, none⟩
  | .newAddress label confirmations, .node (.ok address) =>
      some ⟨db, some (.last (.createAddress address label confirmations))⟩
  | .findEndpoint id, .read =>
      if (db.listWebhookEndpoints projectId).any fun e => e.id = id && e.enabled then
        some ⟨db, some (.last (.testEndpoint id))⟩
      else some ⟨db, none⟩
  | .last call, .write now clock id =>
      match call.write projectId now clock id with
      | .error _ => some ⟨db, none⟩
      | .ok write => some ⟨db.write (write.dbWrite projectId), none⟩
  | .payout origin phase sending, .payout action =>
      actPayout env.engine db projectId origin phase sending action
  | _, _ => none

end ClientTask

/-! ## What a scope is for -/

/-- The writes of `send_payment` and `reconcile_payment`. -/
def ProjectWrite.ofEngine : ProjectWrite → Bool
  | beginPayment _ _ | transitionPayment _ _ _ _ _ => true
  | _ => false

/-- A sandbox payout with a settlement invoice pays it. -/
def Scope.permits : Scope → ProjectWrite → Bool
  | invoicesWrite, .insertInvoice _ _ => true
  | paymentsWrite, write => write.ofEngine
  | bitcoinWrite, .createAddress _ _ _ _ _ => true
  | webhooksWrite, .createWebhookEndpoint _ _ _ _ => true
  | webhooksWrite, .disableWebhookEndpoint _ => true
  | webhooksWrite, .testEndpoint _ _ => true
  | webhooksWrite, .replayDelivery _ _ => true
  | sandboxWrite, .creditSandboxBalance _ _ => true
  | sandboxWrite, .insertQuote _ _ _ => true
  | sandboxWrite, .reservePayout _ _ _ => true
  | sandboxWrite, .advancePayout _ _ _ => true
  | sandboxWrite, .attachPaymentToPayout _ _ _ => true
  | sandboxWrite, write => write.ofEngine
  | _, _ => false

/-- Nothing was written, or one of the permitted writes was made for the project, on a row that
was found among those of the project. -/
inductive Db.WrittenFor (projectId : String) (permits : ProjectWrite → Bool) (db : Db) :
    Db → Prop where
  | nothing : WrittenFor projectId permits db db
  | wrote (write : ProjectWrite) (permitted : permits write = true)
      (inScope : write.Scoped projectId db) :
      WrittenFor projectId permits db (db.write (write.dbWrite projectId))

def ClientTask.scope : ClientTask → Scope
  | invoice _ _ => .invoicesWrite
  | lookup _ | engine _ => .paymentsWrite
  | newAddress _ _ => .bitcoinWrite
  | findEndpoint _ => .webhooksWrite
  | last call => call.scope
  | payout _ _ _ => .sandboxWrite

/-! ## The rows a task holds -/

namespace Db

def HasPayment (db : Db) (projectId id : String) : Prop :=
  ∃ row ∈ db.outgoingPayments, row.id = id ∧ row.projectId = projectId

def HasPayout (db : Db) (projectId id : String) : Prop :=
  ∃ row ∈ db.sandboxPayouts, row.id = id ∧ row.projectId = projectId

end Db

section Tasks

variable {projectId : String} {db after : Db}

def Task.OwnedBy (projectId : String) (db : Db) : Task → Prop
  | .send owner _ phase => owner = projectId ∧
      ∀ id, phase.payment = some id → db.HasPayment projectId id
  | .reconcile payment _ rest => db.HasPayment projectId payment.id ∧ rest = []
  | _ => False

def PayoutPhase.OwnedBy (projectId : String) (db : Db) (phase : PayoutPhase) : Prop :=
  ∀ payout, phase.payout = some payout → db.HasPayout projectId payout.id

/-- The task runs for the project. -/
def ClientTask.Within (projectId : String) (db : Db) : ClientTask → Prop
  | invoice call _ => call.projectId = projectId
  | engine task => task.OwnedBy projectId db
  | payout _ phase sending => phase.OwnedBy projectId db ∧
      ∀ done, phase = .pay done → sending.OwnedBy projectId db
  | _ => True

/-! ### Known rows stay -/

theorem Db.HasPayment.written {id : String} (known : db.HasPayment projectId id)
    (write : DbWrite) : (db.write write).HasPayment projectId id :=
  ProjectWrite.payment_kept (ProjectWrite.changed_of_write db write).1 known

theorem Db.HasPayout.written {id : String} (known : db.HasPayout projectId id)
    (write : DbWrite) : (db.write write).HasPayout projectId id :=
  ProjectWrite.payout_kept (ProjectWrite.changed_of_write db write).2 known

theorem Task.OwnedBy.written {task : Task} (owned : task.OwnedBy projectId db) (write : DbWrite) :
    task.OwnedBy projectId (db.write write) := by
  cases task with
  | send owner key phase =>
      exact ⟨owned.1, fun id held => (owned.2 id held).written write⟩
  | reconcile payment phase rest => exact ⟨owned.1.written write, owned.2⟩
  | _ => exact owned

/-- What others write leaves the task within its project. -/
theorem ClientTask.Within.written {task : ClientTask} (within : task.Within projectId db)
    (write : DbWrite) : task.Within projectId (db.write write) := by
  cases task with
  | engine task => exact Task.OwnedBy.written within write
  | payout origin phase sending =>
      exact ⟨fun payout held => (within.1 payout held).written write,
        fun done paying => (within.2 done paying).written write⟩
  | _ => exact within

theorem Db.WrittenFor.mono {fewer more : ProjectWrite → Bool}
    (less : ∀ write, fewer write = true → more write = true)
    (written : db.WrittenFor projectId fewer after) : db.WrittenFor projectId more after := by
  cases written with
  | nothing => exact .nothing
  | wrote write permitted inScope => exact .wrote write (less write permitted) inScope

theorem Db.WrittenFor.hasPayment {permits : ProjectWrite → Bool}
    (written : db.WrittenFor projectId permits after) {id : String}
    (known : db.HasPayment projectId id) : after.HasPayment projectId id := by
  cases written with
  | nothing => exact known
  | wrote write permitted inScope => exact known.written _

theorem Db.WrittenFor.hasPayout {permits : ProjectWrite → Bool}
    (written : db.WrittenFor projectId permits after) {id : String}
    (known : db.HasPayout projectId id) : after.HasPayout projectId id := by
  cases written with
  | nothing => exact known
  | wrote write permitted inScope => exact known.written _

theorem Db.hasPayment_of_getPayment {id : String} {payment : PaymentRecord}
    (found : db.getPayment projectId id = .ok payment) :
    db.HasPayment projectId payment.id := by
  obtain ⟨row, fetched, rfl⟩ := Except.exists_of_map_eq_ok found
  have there := fetchOne_eq_ok.mp fetched
  have matched := List.find?_some there
  simp only [decide_eq_true_eq] at matched
  exact ⟨row, List.mem_of_find?_eq_some there, rfl, matched.1⟩

theorem Db.hasPayout_of_getPayout {id : String} {payout : PayoutRecord}
    (found : db.getPayout projectId id = .ok payout) : db.HasPayout projectId payout.id := by
  have there := fetchOne_eq_ok.mp found
  have matched := List.find?_some there
  simp only [decide_eq_true_eq] at matched
  exact ⟨payout, List.mem_of_find?_eq_some there, rfl, matched.1⟩

/-! ## The steps of the engine -/

/-- A payment of the project moves. -/
theorem Db.writtenFor_transition {now : DateTime} {id : String} {next : PaymentStatus}
    {resolution : Resolution} {answer : Except StorageError Transitioned}
    (known : db.HasPayment projectId id)
    (call : Db.transitionPayment now none id next resolution db = (answer, after)) :
    db.WrittenFor projectId ProjectWrite.ofEngine after := by
  have moved : db.write ((ProjectWrite.transitionPayment now none id next resolution).dbWrite
      projectId) = after := congrArg Prod.snd call
  rw [← moved]
  exact .wrote (.transitionPayment now none id next resolution) rfl known

theorem Db.writtenFor_begin {now : DateTime} {new : NewPayment}
    {answer : Except StorageError BeginOutcome} (own : new.projectId = projectId)
    (call : Db.beginPayment now new db = (answer, after)) :
    db.WrittenFor projectId ProjectWrite.ofEngine after := by
  subst own
  have begun : db.write ((ProjectWrite.beginPayment now new).dbWrite new.projectId) = after :=
    congrArg Prod.snd call
  rw [← begun]
  exact .wrote (.beginPayment now new) rfl trivial

/-- A step of `send_payment` or `reconcile_payment` for the project. -/
theorem Acted.writtenFor {env : Env} {task : Task} {action : TaskAction} {outcome : Outcome}
    (acted : Acted env db task action outcome) (owned : task.OwnedBy projectId db) :
    db.WrittenFor projectId ProjectWrite.ofEngine outcome.db ∧
      (outcome.task = .idle ∨ outcome.task.OwnedBy projectId outcome.db) := by
  cases acted with
  | parseFailed owner key request clock error failed => exact ⟨.nothing, .inl rfl⟩
  | parsed owner key request clock prepared done =>
      exact ⟨.nothing, .inr ⟨owned.1, fun id held => by cases held⟩⟩
  | beginFailed owner key request prepared now id error after call =>
      exact ⟨Db.writtenFor_begin owned.1 call, .inl rfl⟩
  | begun owner key request prepared now id payment after call =>
      refine ⟨Db.writtenFor_begin owned.1 call, .inr ⟨owned.1, ?_⟩⟩
      rintro _ ⟨⟩
      cases Db.beginPayment_begun call with
      | inserted fits positive keyFree idFree =>
          exact ⟨_, List.mem_append_right _ (List.mem_singleton.mpr rfl), rfl, owned.1⟩
  | replayed owner key request prepared now id payment after call =>
      exact ⟨Db.writtenFor_begin owned.1 call, .inl rfl⟩
  | persistFailed owner key prepared payment now error after call =>
      exact ⟨Db.writtenFor_transition (owned.2 payment.id rfl) call, .inl rfl⟩
  | persisted owner key prepared payment now pending after call =>
      have written := Db.writtenFor_transition (owned.2 payment.id rfl) call
      refine ⟨written, .inr ⟨owned.1, ?_⟩⟩
      rintro _ ⟨⟩
      exact written.hasPayment (owned.2 payment.id rfl)
  | accepted owner key prepared payment pending nodeId => exact ⟨.nothing, .inl rfl⟩
  | refused owner key prepared payment pending error =>
      refine ⟨.nothing, .inr ⟨owned.1, ?_⟩⟩
      rintro _ ⟨⟩
      exact owned.2 payment.id rfl
  | failFailed owner key prepared payment refusedWith now error after call =>
      exact ⟨Db.writtenFor_transition (owned.2 payment.id rfl) call, .inl rfl⟩
  | failed owner key prepared payment refusedWith now failed after call =>
      exact ⟨Db.writtenFor_transition (owned.2 payment.id rfl) call, .inl rfl⟩
  | undecided payment rest nodeView none_ =>
      obtain ⟨known, rfl⟩ := owned
      exact ⟨.nothing, .inl rfl⟩
  | passing payment rest nodeView next resolution decided passes => exact ⟨.nothing, .inr owned⟩
  | settling payment rest nodeView next resolution decided direct =>
      exact ⟨.nothing, .inr owned⟩
  | passFailed payment rest nodeView next resolution now error after call =>
      exact ⟨Db.writtenFor_transition owned.1 call, .inl rfl⟩
  | passed payment rest nodeView next resolution now pending after call =>
      have written := Db.writtenFor_transition owned.1 call
      exact ⟨written, .inr ⟨written.hasPayment owned.1, owned.2⟩⟩
  | settleFailed payment rest nodeView next resolution now error after call =>
      exact ⟨Db.writtenFor_transition owned.1 call, .inl rfl⟩
  | settled payment rest nodeView next resolution now settled after call =>
      obtain ⟨known, rfl⟩ := owned
      exact ⟨Db.writtenFor_transition known call, .inl rfl⟩
  | cancelled task => exact ⟨.nothing, .inl rfl⟩
  | _ => exact owned.elim

/-! ## The steps of a payout request -/

theorem afterPending_payout {pending payout : PayoutRecord} {scenario : Scenario}
    (held : (afterPending pending scenario).payout = some payout) : payout = pending := by
  cases scenario <;> exact (Option.some.inj held).symm

theorem afterFound_payout {found payout : PayoutRecord} {outcome : String} {phase : PayoutPhase}
    (decided : afterFound found outcome = .ok phase) (held : phase.payout = some payout) :
    payout = found := by
  unfold afterFound at decided
  split at decided
  · cases decided
  · split at decided
    · cases decided
      exact (Option.some.inj held).symm
    · split at decided
      · cases decided
        exact (Option.some.inj held).symm
      · cases decided

/-- The route is done, or goes on with a payout of the project. -/
def RouteOutcome.Owned (projectId : String) (outcome : RouteOutcome) : Prop :=
  ∀ owner origin phase, outcome.route = .payout owner origin phase →
    phase.OwnedBy projectId outcome.db ∧ ∀ done, phase ≠ .pay done

theorem conclude_owned (origin : Origin) (payout : PayoutRecord) :
    (conclude db projectId origin payout).Owned projectId := by
  intro owner other phase same
  cases origin with
  | create key request => cases same
  | reconcile id outcome =>
      cases same
      refine ⟨fun payout held => ?_, fun done paying => ?_⟩
      · cases held
      · cases paying

theorem answerWith_owned (origin : Origin) (answer : Except ApiError PayoutAnswer) :
    (answerWith db projectId origin answer).Owned projectId := by
  intro owner other phase same
  cases same

/-- Where a moved payout goes on, and with which payout. -/
theorem advanced_owned {origin : Origin} {row : PayoutRecord} {phase : PayoutPhase}
    (known : db.HasPayout projectId row.id) :
    (phase.advanced db projectId origin row).Owned projectId := by
  cases phase with
  | begin_ scenario payout =>
      intro owner other phase same
      cases same
      refine ⟨fun payout held => ?_, fun done paying => ?_⟩
      · rw [afterPending_payout held]
        exact known
      · cases scenario <;> cases paying
  | succeed payout =>
      simp only [PayoutPhase.advanced]
      split
      · exact conclude_owned origin row
      · intro owner other phase same
        cases same
        refine ⟨?_, fun done paying => by cases paying⟩
        rintro _ ⟨⟩
        exact known
  | _ => exact conclude_owned origin row

/-- Advancing a payout of the project. -/
theorem Db.writtenFor_advance {now : DateTime} {id : String} {next : PayoutStatus}
    {row : PayoutRecord} {changed : Bool} (known : db.HasPayout projectId id)
    (called : Db.advancePayout now id next db = (.ok (row, changed), after)) :
    db.WrittenFor projectId Scope.sandboxWrite.permits after ∧
      after.HasPayout projectId row.id := by
  have moved : db.write ((ProjectWrite.advancePayout now id next).dbWrite projectId) = after :=
    congrArg Prod.snd called
  have written : db.WrittenFor projectId Scope.sandboxWrite.permits after := by
    rw [← moved]
    exact .wrote (.advancePayout now id next) rfl known
  refine ⟨written, ?_⟩
  have stored : after.findPayout id = some row := (Db.advancePayout_ok called).2.1
  rw [(lookup_some stored).2]
  exact written.hasPayout known

theorem Db.writtenFor_reserve {now clock : DateTime} {request : Reservation}
    {payout : PayoutRecord} (own : request.projectId = projectId)
    (called : Db.reserveQuote now clock request db = (.ok payout, after)) :
    db.WrittenFor projectId Scope.sandboxWrite.permits after ∧
      after.HasPayout projectId payout.id := by
  subst own
  obtain ⟨rfl, -, keyFree, added⟩ := Db.reserveQuote_ok called
  have reserved : db.write ((ProjectWrite.reservePayout now clock request).dbWrite
      request.projectId) = after := by
    change (Db.reservePayout now clock request db).2 = after
    simp only [Db.reservePayout_eq, keyFree, called]
  constructor
  · rw [← reserved]
    exact .wrote (.reservePayout now clock request) rfl trivial
  · refine ⟨reservedRow now request, ?_, rfl, rfl⟩
    rw [added]
    exact List.mem_append_right _ (List.mem_singleton.mpr rfl)

/-- A step of a payout request outside the engine. -/
theorem Proceeds.writtenFor {env : Env} {origin : Origin} {phase : PayoutPhase}
    {action : PayoutAction} {outcome : RouteOutcome}
    (proceeds : Proceeds env db projectId origin phase action outcome)
    (owned : phase.OwnedBy projectId db) :
    db.WrittenFor projectId Scope.sandboxWrite.permits outcome.db ∧ outcome.Owned projectId := by
  have goesOn : ∀ {phase : PayoutPhase}, phase.payout = none → (∀ done, phase ≠ .pay done) →
      RouteOutcome.Owned projectId ⟨db, .payout projectId origin phase, []⟩ := by
    intro phase idle unpaid owner other next same
    cases same
    refine ⟨fun payout held => ?_, unpaid⟩
    rw [idle] at held
    cases held
  cases proceeds with
  | refused _ _ _ error reason => exact ⟨.nothing, answerWith_owned origin _⟩
  | lookedUp key request scenario quote parsed found =>
      refine ⟨.nothing, goesOn ?_ ?_⟩
      · unfold afterLookup
        split <;> rfl
      · unfold afterLookup
        split <;> simp
  | checked _ scenario quote invoice clock accepted =>
      exact ⟨.nothing, goesOn rfl fun done paying => by cases paying⟩
  | replayed key request scenario prior payout found same =>
      exact ⟨.nothing, answerWith_owned _ _⟩
  | noPrior key request scenario missing =>
      exact ⟨.nothing, goesOn rfl fun done paying => by cases paying⟩
  | reserved key request scenario now clock payoutId payout after called =>
      obtain ⟨written, stored⟩ := Db.writtenFor_reserve rfl called
      refine ⟨written, ?_⟩
      intro owner other next same
      cases same
      refine ⟨?_, fun done paying => by cases paying⟩
      rintro _ ⟨⟩
      exact stored
  | advanced _ _ payout next now row changed after target called =>
      have held : phase.payout = some payout := by
        cases phase <;> cases target <;> rfl
      obtain ⟨written, stored⟩ := Db.writtenFor_advance (owned payout held) called
      refine ⟨?_, advanced_owned stored⟩
      rw [PayoutPhase.advanced_db]
      exact written
  | priced _ done invoice quote found =>
      refine ⟨.nothing, ?_⟩
      intro owner other next same
      cases same
      refine ⟨?_, fun done paying => by cases paying⟩
      rintro _ ⟨⟩
      exact owned done rfl
  | attached _ done payment now after called =>
      have moved : db.write ((ProjectWrite.attachPaymentToPayout now done.id payment.id).dbWrite
          projectId) = after := congrArg Prod.snd called
      have written : db.WrittenFor projectId Scope.sandboxWrite.permits after := by
        rw [← moved]
        exact .wrote (.attachPaymentToPayout now done.id payment.id) rfl (owned done rfl)
      refine ⟨written, ?_⟩
      intro owner other next same
      cases same
      refine ⟨?_, fun done paying => by cases paying⟩
      rintro _ ⟨⟩
      exact written.hasPayout (owned done rfl)
  | fetched _ done payout found =>
      rw [conclude_db]
      exact ⟨.nothing, conclude_owned origin payout⟩
  | found id told payout phase found decided =>
      refine ⟨.nothing, ?_⟩
      intro owner other next same
      cases same
      refine ⟨fun held there => ?_, fun done paying => ?_⟩
      · rw [afterFound_payout decided there]
        exact Db.hasPayout_of_getPayout found
      · subst paying
        unfold afterFound at decided
        split at decided
        · cases decided
        · split at decided
          · cases decided
          · split at decided <;> cases decided
  | shown _ payout => exact ⟨.nothing, answerWith_owned origin _⟩

/-- What the end of `send_payment` means for its payout request. -/
theorem afterSend_owned {origin : Origin} {done : PayoutRecord} {outcome : Outcome}
    {route : RouteOutcome}
    (after : Service.afterSend projectId origin done outcome = some route) :
    route.db = outcome.db ∧ (route.route = .idle ∨
      (∃ payment, route.route = .payout projectId origin (.attach done payment)) ∨
      (route.route = .payout projectId origin (.pay done) ∧ outcome.task ≠ .idle)) := by
  unfold Service.afterSend at after
  split at after
  · rename_i sent ended
    cases after
    exact ⟨rfl, .inr (.inl ⟨sent.payment, rfl⟩)⟩
  · cases after
    exact ⟨rfl, .inl rfl⟩
  · split at after
    · rename_i sending
      cases after
      refine ⟨rfl, .inr (.inr ⟨rfl, ?_⟩)⟩
      rw [sending]
      simp
    · cases after

/-! ## The steps of a client request -/

/-- A task that a step went on to. -/
def ClientOutcome.Within (projectId : String) (scope : Scope) (outcome : ClientOutcome) : Prop :=
  ∀ next, outcome.next = some next → next.scope = scope ∧ next.Within projectId outcome.db

theorem ofEngine_within {task : Task} (owned : task = .idle ∨ task.OwnedBy projectId db) :
    ClientOutcome.Within projectId .paymentsWrite ⟨db, ClientTask.ofEngine task⟩ := by
  intro next same
  cases task with
  | idle => cases same
  | _ =>
      cases same
      refine ⟨rfl, ?_⟩
      rcases owned with idle | owned
      · cases idle
      · exact owned

theorem ofRoute_within {outcome : RouteOutcome} (owned : outcome.Owned projectId)
    (sending : Task) :
    ClientOutcome.Within projectId .sandboxWrite
      ⟨outcome.db, ClientTask.ofRoute sending outcome.route⟩ := by
  intro next same
  cases here : outcome.route with
  | idle =>
      rw [here] at same
      cases same
  | payout owner origin phase =>
      rw [here] at same
      cases same
      obtain ⟨holds, unpaid⟩ := owned owner origin phase here
      exact ⟨rfl, holds, fun done paying => absurd paying (unpaid done)⟩

theorem actPayout_writtenFor {env : Env} {origin : Origin} {phase : PayoutPhase} {sending : Task}
    {action : PayoutAction} {outcome : ClientOutcome}
    (within : (ClientTask.payout origin phase sending).Within projectId db)
    (acted : ClientTask.actPayout env db projectId origin phase sending action = some outcome) :
    db.WrittenFor projectId Scope.sandboxWrite.permits outcome.db ∧
      outcome.Within projectId .sandboxWrite := by
  obtain ⟨owned, runs⟩ := within
  have proceeded : ((phase.act env db projectId origin action).map fun outcome =>
      ClientOutcome.mk outcome.db (ClientTask.ofRoute sending outcome.route)) = some outcome →
      db.WrittenFor projectId Scope.sandboxWrite.permits outcome.db ∧
        outcome.Within projectId .sandboxWrite := by
    intro stepped
    obtain ⟨route, taken, rfl⟩ := Option.map_eq_some_iff.mp stepped
    obtain ⟨written, ends⟩ := (proceeds_of_act taken).writtenFor owned
    exact ⟨written, ofRoute_within ends sending⟩
  cases action with
  | call =>
      cases phase with
      | call done request =>
          cases acted
          refine ⟨.nothing, ?_⟩
          rintro _ ⟨⟩
          refine ⟨rfl, ?_, ?_⟩
          · rintro _ ⟨⟩
            exact owned done rfl
          · intro _ _
            exact ⟨rfl, fun id held => by cases held⟩
      | _ => cases acted
  | pay action =>
      cases phase with
      | pay done =>
          simp only [ClientTask.actPayout] at acted
          split at acted
          · cases acted
          · rename_i sent stepped
            obtain ⟨route, ended, rfl⟩ := Option.map_eq_some_iff.mp acted
            obtain ⟨written, goesOn⟩ := (acted_of_act stepped).writtenFor (runs done rfl)
            have known : sent.db.HasPayout projectId done.id :=
              written.hasPayout (owned done rfl)
            obtain ⟨same, routed⟩ := afterSend_owned ended
            refine ⟨?_, ?_⟩
            · rw [same]
              refine written.mono fun write ofEngine => ?_
              cases write <;> first | rfl | cases ofEngine
            · rcases routed with idle | ⟨payment, attaches⟩ | ⟨pays, busy⟩
              · rw [idle]
                rintro _ ⟨⟩
              · rw [attaches, same]
                rintro _ ⟨⟩
                refine ⟨rfl, ?_, fun done paying => by cases paying⟩
                rintro _ ⟨⟩
                exact known
              · rw [pays, same]
                rintro _ ⟨⟩
                refine ⟨rfl, ?_, fun _ _ => goesOn.resolve_left busy⟩
                rintro _ ⟨⟩
                exact known
      | _ => cases acted
  | _ => exact proceeded acted

/-- An invoice request stores invoices of its project. -/
theorem InvoiceCall.act_writtenFor {env : InvoiceEnv} {call : InvoiceCall} {phase : InvoicePhase}
    {action : InvoiceAction} {outcome : InvoiceOutcome}
    (acted : call.act env db phase action = some outcome) :
    db.WrittenFor call.projectId Scope.invoicesWrite.permits outcome.db := by
  cases phase with
  | store created expiresAt =>
      cases action with
      | insert now id =>
          have inserted : outcome.db =
              (Db.insertInvoice now (call.newInvoice id created expiresAt) db).2 := by
            simp only [InvoiceCall.act] at acted
            split at acted
            · rename_i invoice after made
              cases acted
              rw [made]
            · rename_i after made
              split at acted
              · cases acted
                rw [made]
              · cases acted
                rw [made]
            · rename_i error after _ made
              cases acted
              rw [made]
          rw [inserted]
          exact .wrote (.insertInvoice now (call.newInvoice id created expiresAt)) rfl trivial
      | _ => cases acted
  | find =>
      cases action with
      | read =>
          simp only [InvoiceCall.act] at acted
          split at acted
          · cases acted
            exact .nothing
          · split at acted
            · cases acted
              exact .nothing
            · split at acted
              · cases acted
                exact .nothing
              · cases acted
                exact .nothing
      | _ => cases acted
  | callNode =>
      cases action with
      | node answer =>
          cases answer with
          | error error =>
              cases acted
              exact .nothing
          | ok created =>
              simp only [InvoiceCall.act] at acted
              split at acted
              · cases acted
                exact .nothing
              · cases acted
                exact .nothing
      | _ => cases acted
  | recover =>
      cases action with
      | read =>
          simp only [InvoiceCall.act] at acted
          split at acted
          · cases acted
            exact .nothing
          · cases acted
            exact .nothing
      | _ => cases acted

theorem LastCall.write_permitted {call : LastCall} {now clock : DateTime} {id : String}
    {write : ProjectWrite} (made : call.write projectId now clock id = .ok write) :
    call.scope.permits write = true ∧ write.Scoped projectId db := by
  cases call with
  | insertQuote request =>
      obtain ⟨new, -, rfl⟩ := Except.exists_of_map_eq_ok made
      exact ⟨rfl, trivial⟩
  | _ =>
      cases made
      exact ⟨rfl, trivial⟩

/-- **A handler writes what its scope is for, on rows of its project.** The row that a write
names is one that the request found among those of the project, or has stored for it. -/
theorem ClientTask.act_written {env : ClientEnv} {task : ClientTask} {action : ClientAction}
    {outcome : ClientOutcome} (within : task.Within projectId db)
    (acted : task.act env db projectId action = some outcome) :
    db.WrittenFor projectId task.scope.permits outcome.db ∧
      outcome.Within projectId task.scope := by
  cases task with
  | invoice call phase =>
      cases action with
      | invoice action =>
          obtain ⟨step, taken, rfl⟩ := Option.map_eq_some_iff.mp acted
          cases within
          refine ⟨InvoiceCall.act_writtenFor taken, ?_⟩
          intro next same
          obtain ⟨phase, -, rfl⟩ := Option.map_eq_some_iff.mp same
          exact ⟨rfl, rfl⟩
      | _ => cases acted
  | lookup id =>
      cases action with
      | read =>
          obtain ⟨step, taken, rfl⟩ := Option.map_eq_some_iff.mp acted
          cases acted_of_act taken with
          | notReconciled owner id => exact ⟨.nothing, ofEngine_within (.inl rfl)⟩
          | reconciling owner id payment found =>
              refine ⟨.nothing, ofEngine_within ?_⟩
              unfold reconcileNext
              split
              · exact .inl rfl
              · exact .inr ⟨Db.hasPayment_of_getPayment found, rfl⟩
      | _ => cases acted
  | engine task =>
      cases action with
      | engine action =>
          obtain ⟨step, taken, rfl⟩ := Option.map_eq_some_iff.mp acted
          obtain ⟨written, goesOn⟩ := (acted_of_act taken).writtenFor within
          exact ⟨written, ofEngine_within goesOn⟩
      | _ => cases acted
  | newAddress label confirmations =>
      cases action with
      | node answer =>
          cases answer with
          | error error =>
              cases acted
              refine ⟨.nothing, ?_⟩
              rintro _ ⟨⟩
          | ok address =>
              cases acted
              refine ⟨.nothing, ?_⟩
              rintro _ ⟨⟩
              exact ⟨rfl, trivial⟩
      | _ => cases acted
  | findEndpoint id =>
      cases action with
      | read =>
          simp only [act] at acted
          split at acted
          · cases acted
            refine ⟨.nothing, ?_⟩
            rintro _ ⟨⟩
            exact ⟨rfl, trivial⟩
          · cases acted
            refine ⟨.nothing, ?_⟩
            rintro _ ⟨⟩
      | _ => cases acted
  | last call =>
      cases action with
      | write now clock id =>
          simp only [act] at acted
          split at acted
          · cases acted
            refine ⟨.nothing, ?_⟩
            rintro _ ⟨⟩
          · rename_i write made
            cases acted
            obtain ⟨permitted, inScope⟩ := LastCall.write_permitted made
            refine ⟨.wrote write permitted inScope, ?_⟩
            rintro _ ⟨⟩
      | _ => cases acted
  | payout origin phase sending =>
      cases action with
      | payout action => exact actPayout_writtenFor within acted
      | _ => cases acted

/-- A request that passes its checks starts within the project of its key, under the scope that
was asked of the key. -/
theorem ClientRequest.accept_within {app : AppState} {env : ClientEnv} {headers : HeaderMap}
    {request : ClientRequest} {task : ClientTask}
    (accepted : request.accept app env headers projectId = .ok task) :
    task.scope = request.scope ∧ task.Within projectId db := by
  cases request with
  | createInvoice body =>
      obtain ⟨req, -, accepted⟩ := Except.exists_of_bind_eq_ok accepted
      obtain ⟨asked, -, accepted⟩ := Except.exists_of_bind_eq_ok accepted
      obtain ⟨idem, -, accepted⟩ := Except.exists_of_bind_eq_ok accepted
      cases accepted
      exact ⟨rfl, rfl⟩
  | createPayment body =>
      obtain ⟨req, -, accepted⟩ := Except.exists_of_bind_eq_ok accepted
      obtain ⟨idem, -, accepted⟩ := Except.exists_of_bind_eq_ok accepted
      split at accepted
      · cases accepted
      · obtain ⟨metadata, -, accepted⟩ := Except.exists_of_bind_eq_ok accepted
        cases accepted
        exact ⟨rfl, rfl, fun id held => by cases held⟩
  | reconcilePayment raw =>
      obtain ⟨id, -, accepted⟩ := Except.exists_of_bind_eq_ok accepted
      cases accepted
      exact ⟨rfl, trivial⟩
  | createAddress body =>
      obtain ⟨req, -, accepted⟩ := Except.exists_of_bind_eq_ok accepted
      split at accepted
      · cases accepted
      · dsimp only at accepted
        split at accepted
        · cases accepted
          exact ⟨rfl, trivial⟩
        · cases accepted
  | createEndpoint body bytes =>
      obtain ⟨req, -, accepted⟩ := Except.exists_of_bind_eq_ok accepted
      split at accepted
      · cases accepted
      · split at accepted
        · cases accepted
        · cases accepted
          exact ⟨rfl, trivial⟩
  | topup body =>
      obtain ⟨req, -, accepted⟩ := Except.exists_of_bind_eq_ok accepted
      obtain ⟨currency, -, accepted⟩ := Except.exists_of_bind_eq_ok accepted
      cases accepted
      exact ⟨rfl, trivial⟩
  | createQuote body =>
      obtain ⟨req, -, accepted⟩ := Except.exists_of_bind_eq_ok accepted
      cases accepted
      exact ⟨rfl, trivial⟩
  | createPayout body =>
      obtain ⟨req, -, accepted⟩ := Except.exists_of_bind_eq_ok accepted
      obtain ⟨idem, -, accepted⟩ := Except.exists_of_bind_eq_ok accepted
      cases accepted
      refine ⟨rfl, fun payout held => ?_, fun done paying => ?_⟩
      · cases held
      · cases paying
  | reconcilePayout id body =>
      obtain ⟨req, -, accepted⟩ := Except.exists_of_bind_eq_ok accepted
      cases accepted
      refine ⟨rfl, fun payout held => ?_, fun done paying => ?_⟩
      · cases held
      · cases paying
  | _ =>
      cases accepted
      exact ⟨rfl, trivial⟩

end Tasks

end Safrod

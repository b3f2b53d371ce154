import Mathlib.Logic.Function.Basic
import Safrod.Engine.Decisions
import Safrod.Library.Machine
import Safrod.Storage.Operations

/-!
# The daemon

Any number of requests, reconciliations and node events in progress on one
database. A task is one of them, at the point it has reached: a storage call is
one step, a node call is another, and what the node answers is part of the
action. A client that goes away, a storage call that fails and a shutdown end a
task anywhere (`cancel`), and a crash ends all of them.

The log is not part of the program. It records, newest first, what was written,
what the node was asked and said, and what callers were told, for the statements
about runs.
-/

set_option autoImplicit false

namespace Safrod

/-! ## Tasks -/

/-- Where `send_payment` stands. -/
inductive SendPhase where
  | parse (request : SendRequest)
  | begin_ (request : SendRequest) (prepared : Prepared)
  | persist (prepared : Prepared) (payment : PaymentRecord)
  | dispatch (prepared : Prepared) (payment pending : PaymentRecord)
  | refuse (prepared : Prepared) (payment : PaymentRecord) (error : LightningError)

/-- The payment a request has begun. -/
def SendPhase.payment : SendPhase → Option String
  | .persist _ payment => some payment.id
  | .dispatch _ payment _ => some payment.id
  | .refuse _ payment _ => some payment.id
  | _ => none

/-- Where `reconcile_payment` stands, with the node's record once it was read. -/
inductive ReconcilePhase where
  | look
  | passPending (nodeView : Option NodePayment) (next : PaymentStatus) (resolution : Resolution)
  | settle (nodeView : Option NodePayment) (next : PaymentStatus) (resolution : Resolution)

/-- Where the pump stands with an event. -/
inductive EventPhase where
  | handle
  | apply (outcome : EventOutcome) (payment : PaymentRecord)
  | handled (result : Except EventError Unit)

inductive Task where
  | idle
  | send (projectId idempotencyKey : String) (phase : SendPhase)
  /-- A reconciliation, and the payments a pass over all of them has left. -/
  | reconcile (payment : PaymentRecord) (phase : ReconcilePhase) (rest : List PaymentRecord)
  /-- An event, and whether its invoice was stored when the node delivered it. -/
  | event (event : NodeEvent) (known : Bool) (phase : EventPhase)

/-! ## The log -/

/-- Who wrote a status. -/
inductive Author where
  | sender
  | reconciler (nodeView : Option NodePayment)
  | handler (event : NodeEvent)

inductive Entry where
  /-- A payment was committed with a status. -/
  | stored (paymentId : String) (status : PaymentStatus) (author : Author)
  /-- A request created a payment. -/
  | begun (projectId idempotencyKey paymentId : String) (request : SendRequest)
  /-- The node was asked to send a payment, and answered. -/
  | dispatched (projectId idempotencyKey paymentId paymentHash bolt11 : String)
      (amountMsat : Option ℕ) (answer : Except LightningError String)
  /-- The node was asked for its record of a payment hash. -/
  | looked (paymentHash : String) (nodeView : Option NodePayment)
  | returned (projectId idempotencyKey : String) (result : Except ApiError SendResult)
  | delivered (event : NodeEvent)
  | acknowledged (event : NodeEvent) (known : Bool)

/-- The entry of a call of `transitionPayment`, when it changed the payment. -/
def storedBy (author : Author) (moved : Transitioned) : List Entry :=
  if moved.changed then [.stored moved.payment.id moved.payment.status author] else []

/-! ## Steps of one task -/

inductive TaskAction where
  | request (projectId idempotencyKey : String) (request : SendRequest)
  | parse (clock : DateTime)
  | begin_ (now : DateTime) (id : String)
  | persist (now : DateTime)
  | dispatch (answer : Except LightningError String)
  | refuse (now : DateTime)
  | reconcile (projectId id : String)
  | reconcileAll
  | look (nodeView : Option NodePayment)
  | passPending (now : DateTime)
  | settle (now : DateTime)
  | deliver (event : NodeEvent)
  | receive (now : DateTime)
  | pick (tie : String)
  | apply (now : DateTime)
  | acknowledge
  | retry
  | cancel

/-- What a step of a task leaves: the database, the task, and new entries. -/
structure Outcome where
  db : Db
  task : Task
  entries : List Entry := []

/-- `reconcile_payment` returns at once for a final payment. -/
def reconcileNext : List PaymentRecord → Task
  | [] => .idle
  | payment :: rest =>
      if payment.status.isFinal then reconcileNext rest else .reconcile payment .look rest

/-- The event is a payment received for a stored invoice. -/
def concernsStored (db : Db) : NodeEvent → Bool
  | .paymentReceived paymentHash _ => (db.findInvoiceByHash paymentHash).isSome
  | _ => false

def SendPhase.act (env : Env) (db : Db) (projectId idempotencyKey : String) :
    SendPhase → TaskAction → Option Outcome
  | .parse request, .parse clock =>
      match prepare env clock request with
      | .error error => some ⟨db, .idle, [.returned projectId idempotencyKey (.error error)]⟩
      | .ok prepared => some ⟨db, .send projectId idempotencyKey (.begin_ request prepared), []⟩
  | .begin_ request prepared, .begin_ now id =>
      match Db.beginPayment now (prepared.newPayment id projectId idempotencyKey) db with
      | (.error error, after) =>
          some ⟨after, .idle, [.returned projectId idempotencyKey (.error error.toApiError)]⟩
      | (.ok begun, after) =>
          if begun.created then
            some ⟨after, .send projectId idempotencyKey (.persist prepared begun.payment),
              [.begun projectId idempotencyKey begun.payment.id request,
                .stored begun.payment.id .created .sender]⟩
          else
            -- a retry of a request that was already accepted is not dispatched again
            some ⟨after, .idle,
              [.returned projectId idempotencyKey (.ok ⟨begun.payment, false⟩)]⟩
  | .persist prepared payment, .persist now =>
      match Db.transitionPayment now none payment.id .pending {} db with
      | (.error error, after) =>
          some ⟨after, .idle, [.returned projectId idempotencyKey (.error error.toApiError)]⟩
      | (.ok pending, after) =>
          some ⟨after, .send projectId idempotencyKey (.dispatch prepared payment pending.payment),
            storedBy .sender pending⟩
  | .dispatch prepared payment pending, .dispatch answer =>
      let asked := Entry.dispatched projectId idempotencyKey payment.id prepared.paymentHash
        prepared.bolt11 prepared.amountForNode answer
      match answer with
      | .ok _ =>
          some ⟨db, .idle, [.returned projectId idempotencyKey (.ok ⟨pending, true⟩), asked]⟩
      | .error error =>
          some ⟨db, .send projectId idempotencyKey (.refuse prepared payment error), [asked]⟩
  | .refuse _ payment error, .refuse now =>
      match Db.transitionPayment now none payment.id .failed (refusal error) db with
      | (.error error, after) =>
          some ⟨after, .idle, [.returned projectId idempotencyKey (.error error.toApiError)]⟩
      | (.ok failed, after) =>
          some ⟨after, .idle, .returned projectId idempotencyKey (.ok ⟨failed.payment, true⟩) ::
            storedBy .sender failed⟩
  | _, _ => none

def ReconcilePhase.act (db : Db) (payment : PaymentRecord) (rest : List PaymentRecord) :
    ReconcilePhase → TaskAction → Option Outcome
  | .look, .look nodeView =>
      let asked := Entry.looked payment.paymentHash nodeView
      match reconcileDecision payment.status nodeView with
      | none => some ⟨db, reconcileNext rest, [asked]⟩
      | some (next, resolution) =>
          if passesPending payment.status next then
            some ⟨db, .reconcile payment (.passPending nodeView next resolution) rest, [asked]⟩
          else
            some ⟨db, .reconcile payment (.settle nodeView next resolution) rest, [asked]⟩
  | .passPending nodeView next resolution, .passPending now =>
      match Db.transitionPayment now none payment.id .pending {} db with
      | (.error _, after) => some ⟨after, .idle, []⟩
      | (.ok pending, after) =>
          some ⟨after, .reconcile payment (.settle nodeView next resolution) rest,
            storedBy (.reconciler nodeView) pending⟩
  | .settle nodeView next resolution, .settle now =>
      match Db.transitionPayment now none payment.id next resolution db with
      | (.error _, after) => some ⟨after, .idle, []⟩
      | (.ok settled, after) =>
          some ⟨after, reconcileNext rest, storedBy (.reconciler nodeView) settled⟩
  | _, _ => none

def EventPhase.act (db : Db) (event : NodeEvent) (known : Bool) :
    EventPhase → TaskAction → Option Outcome
  | .handle, .receive now =>
      match event with
      | .paymentReceived paymentHash amountMsat =>
          match Db.markInvoicePaid now (receivedKey paymentHash) paymentHash amountMsat db with
          | (answer, after) => some ⟨after, .event event known (.handled (eventResult answer)), []⟩
      | _ => none
  | .handle, .pick tie =>
      match event with
      | .paymentReceived _ _ => none
      | _ =>
          match outcomeOf event with
          | none => some ⟨db, .event event known (.handled (.ok ())), []⟩
          | some outcome =>
              match db.findUnresolvedPaymentByHash outcome.paymentHash tie with
              | none => some ⟨db, .event event known (.handled (.ok ())), []⟩
              | some payment => some ⟨db, .event event known (.apply outcome payment), []⟩
  | .apply outcome payment, .apply now =>
      match Db.transitionPayment now (some (outcome.dedupeKey payment.id)) payment.id outcome.next
          outcome.resolution db with
      | (.error error, after) =>
          some ⟨after, .event event known (.handled (.error (classify error))), []⟩
      | (.ok moved, after) =>
          some ⟨after, .event event known (.handled (.ok ())), storedBy (.handler event) moved⟩
  | .handled result, .acknowledge =>
      if acknowledges result then some ⟨db, .idle, [.acknowledged event known]⟩ else none
  | .handled result, .retry =>
      if acknowledges result then none else some ⟨db, .event event known .handle, []⟩
  | _, _ => none

def Task.act (env : Env) (db : Db) : Task → TaskAction → Option Outcome
  | .idle, .request projectId idempotencyKey request =>
      some ⟨db, .send projectId idempotencyKey (.parse request), []⟩
  | .idle, .reconcile projectId id =>
      match db.getPayment projectId id with
      | .error _ => some ⟨db, .idle, []⟩
      | .ok payment => some ⟨db, reconcileNext [payment], []⟩
  | .idle, .reconcileAll => some ⟨db, reconcileNext db.unresolvedPayments, []⟩
  | .idle, .deliver nodeEvent =>
      some ⟨db, .event nodeEvent (concernsStored db nodeEvent) .handle, [.delivered nodeEvent]⟩
  | .idle, _ => none
  | _, .cancel => some ⟨db, .idle, []⟩
  | .send projectId idempotencyKey phase, action => phase.act env db projectId idempotencyKey action
  | .reconcile payment phase rest, action => phase.act db payment rest action
  | .event nodeEvent known phase, action => phase.act db nodeEvent known action

/-! ## Steps of the daemon -/

structure World where
  db : Db := {}
  tasks : ℕ → Task := fun _ => .idle
  log : List Entry := []

inductive Action where
  | act (task : ℕ) (action : TaskAction)
  | crash
  /-- A call of another route or task, such as the expiry of invoices. -/
  | call (call : Call)

namespace World

/-- The world after a step of one task. -/
def put (world : World) (task : ℕ) (outcome : Outcome) : World where
  db := outcome.db
  tasks := Function.update world.tasks task outcome.task
  log := outcome.entries ++ world.log

def step (env : Env) (world : World) : Action → Option World
  | .act task action => ((world.tasks task).act env world.db action).map (world.put task)
  | .crash => some { world with tasks := fun _ => .idle }
  | .call call =>
      if call.isEngine then none else some { world with db := world.db.perform call }

end World

/-- Runs of the daemon on a database that starts empty. -/
def daemon (env : Env) : Machine World Action where
  initial world := world = {}
  step := World.step env

/-! ## The start of a request -/

/-- An idle task takes a request that can be prepared up to its first storage
call. -/
theorem reachable_prepared {env : Env} {meets : World → Action → Prop} {world : World}
    (reached : (daemon env).ReachableBy meets world)
    (asks : ∀ world task projectId idempotencyKey request, world.tasks task = .idle →
      meets world (.act task (.request projectId idempotencyKey request)))
    (parses : ∀ world task clock projectId idempotencyKey request,
      world.tasks task = .send projectId idempotencyKey (.parse request) →
      meets world (.act task (.parse clock)))
    (task : ℕ) (idle : world.tasks task = .idle) {clock : DateTime} {request : SendRequest}
    {prepared : Prepared} (done : prepare env clock request = .ok prepared)
    (projectId idempotencyKey : String) :
    (daemon env).ReachableBy meets { world with
      tasks := Function.update world.tasks task
        (.send projectId idempotencyKey (.begin_ request prepared)) } := by
  have asked : (daemon env).step world (.act task (.request projectId idempotencyKey request)) =
      some (world.put task
        ⟨world.db, .send projectId idempotencyKey (.parse request), []⟩) := by
    simp only [daemon, World.step, idle, Task.act, Option.map_some]
  have here : (world.put task ⟨world.db, .send projectId idempotencyKey (.parse request),
      []⟩).tasks task = .send projectId idempotencyKey (.parse request) :=
    Function.update_self _ _ _
  have parsed : (daemon env).step
      (world.put task ⟨world.db, .send projectId idempotencyKey (.parse request), []⟩)
      (.act task (.parse clock)) = some { world with
        tasks := Function.update world.tasks task
          (.send projectId idempotencyKey (.begin_ request prepared)) } := by
    simp only [daemon, World.step, World.put, Function.update_self, Task.act, SendPhase.act, done,
      Option.map_some, Function.update_idem, List.nil_append]
  exact .step (.step reached (asks _ _ _ _ _ idle) asked) (parses _ _ _ _ _ _ here) parsed

/-- Two projects have asked to pay one invoice. -/
def twoRequests : World where
  tasks := Function.update
    (Function.update (fun _ => .idle) 0
      (.send "prj_1" "key_1" (.begin_ regtestRequest regtestPrepared)))
    1 (.send "prj_2" "key_2" (.begin_ regtestRequest regtestPrepared))

theorem twoRequests_reachableBy {meets : World → Action → Prop}
    (asks : ∀ world task projectId idempotencyKey request, world.tasks task = .idle →
      meets world (.act task (.request projectId idempotencyKey request)))
    (parses : ∀ world task clock projectId idempotencyKey request,
      world.tasks task = .send projectId idempotencyKey (.parse request) →
      meets world (.act task (.parse clock))) :
    (daemon regtest).ReachableBy meets twoRequests := by
  have done : prepare regtest regtestMade regtestRequest = .ok regtestPrepared := by
    rw [prepare_regtest, if_neg (by decide)]
  have first := reachable_prepared (.start rfl) asks parses 0 rfl done "prj_1" "key_1"
  exact reachable_prepared first asks parses 1 rfl done "prj_2" "key_2"

theorem twoRequests_reachable : (daemon regtest).Reachable twoRequests :=
  twoRequests_reachableBy (fun _ _ _ _ _ _ => trivial) fun _ _ _ _ _ _ _ => trivial

end Safrod

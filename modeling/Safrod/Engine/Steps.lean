import Safrod.Engine.Daemon
import Safrod.Storage.PaymentHistory

/-!
# What a step can do

`Acted` lists the steps of one task, one constructor for each exit, with the
storage call it made (`acted_of_act`). `Effect` is what remains of a step when only
the payments and the log are looked at: nothing, a new payment, or a move of one
payment with the entry that records it (`effect_of_step`). A step of the daemon is
a storage call or leaves the database alone, so what holds of every run of
storage calls holds here (`storage_reachable`).
-/

set_option autoImplicit false

namespace Safrod

open Table

/-! ## The exits of a step -/

inductive Acted (env : Env) (db : Db) : Task → TaskAction → Outcome → Prop where
  | requested (projectId idempotencyKey : String) (request : SendRequest) :
      Acted env db .idle (.request projectId idempotencyKey request)
        ⟨db, .send projectId idempotencyKey (.parse request), []⟩
  | parseFailed (projectId idempotencyKey : String) (request : SendRequest) (clock : DateTime)
      (error : ApiError) (failed : prepare env clock request = .error error) :
      Acted env db (.send projectId idempotencyKey (.parse request)) (.parse clock)
        ⟨db, .idle, [.returned projectId idempotencyKey (.error error)]⟩
  | parsed (projectId idempotencyKey : String) (request : SendRequest) (clock : DateTime)
      (prepared : Prepared) (done : prepare env clock request = .ok prepared) :
      Acted env db (.send projectId idempotencyKey (.parse request)) (.parse clock)
        ⟨db, .send projectId idempotencyKey (.begin_ request prepared), []⟩
  | beginFailed (projectId idempotencyKey : String) (request : SendRequest) (prepared : Prepared)
      (now : DateTime) (id : String) (error : StorageError) (after : Db)
      (call : Db.beginPayment now (prepared.newPayment id projectId idempotencyKey) db =
        (.error error, after)) :
      Acted env db (.send projectId idempotencyKey (.begin_ request prepared)) (.begin_ now id)
        ⟨after, .idle, [.returned projectId idempotencyKey (.error error.toApiError)]⟩
  | begun (projectId idempotencyKey : String) (request : SendRequest) (prepared : Prepared)
      (now : DateTime) (id : String) (payment : PaymentRecord) (after : Db)
      (call : Db.beginPayment now (prepared.newPayment id projectId idempotencyKey) db =
        (.ok ⟨payment, true⟩, after)) :
      Acted env db (.send projectId idempotencyKey (.begin_ request prepared)) (.begin_ now id)
        ⟨after, .send projectId idempotencyKey (.persist prepared payment),
          [.begun projectId idempotencyKey payment.id request,
            .stored payment.id .created .sender]⟩
  | replayed (projectId idempotencyKey : String) (request : SendRequest) (prepared : Prepared)
      (now : DateTime) (id : String) (payment : PaymentRecord) (after : Db)
      (call : Db.beginPayment now (prepared.newPayment id projectId idempotencyKey) db =
        (.ok ⟨payment, false⟩, after)) :
      Acted env db (.send projectId idempotencyKey (.begin_ request prepared)) (.begin_ now id)
        ⟨after, .idle, [.returned projectId idempotencyKey (.ok ⟨payment, false⟩)]⟩
  | persistFailed (projectId idempotencyKey : String) (prepared : Prepared)
      (payment : PaymentRecord) (now : DateTime) (error : StorageError) (after : Db)
      (call : Db.transitionPayment now none payment.id .pending {} db =
        (.error error, after)) :
      Acted env db (.send projectId idempotencyKey (.persist prepared payment)) (.persist now)
        ⟨after, .idle, [.returned projectId idempotencyKey (.error error.toApiError)]⟩
  | persisted (projectId idempotencyKey : String) (prepared : Prepared) (payment : PaymentRecord)
      (now : DateTime) (pending : Transitioned) (after : Db)
      (call : Db.transitionPayment now none payment.id .pending {} db =
        (.ok pending, after)) :
      Acted env db (.send projectId idempotencyKey (.persist prepared payment)) (.persist now)
        ⟨after, .send projectId idempotencyKey (.dispatch prepared payment pending.payment),
          storedBy .sender pending⟩
  | accepted (projectId idempotencyKey : String) (prepared : Prepared)
      (payment pending : PaymentRecord) (nodeId : String) :
      Acted env db (.send projectId idempotencyKey (.dispatch prepared payment pending))
        (.dispatch (.ok nodeId))
        ⟨db, .idle, [.returned projectId idempotencyKey (.ok ⟨pending, true⟩),
          .dispatched projectId idempotencyKey payment.id prepared.paymentHash prepared.bolt11
            prepared.amountForNode (.ok nodeId)]⟩
  | refused (projectId idempotencyKey : String) (prepared : Prepared)
      (payment pending : PaymentRecord) (error : LightningError) :
      Acted env db (.send projectId idempotencyKey (.dispatch prepared payment pending))
        (.dispatch (.error error))
        ⟨db, .send projectId idempotencyKey (.refuse prepared payment error),
          [.dispatched projectId idempotencyKey payment.id prepared.paymentHash prepared.bolt11
            prepared.amountForNode (.error error)]⟩
  | failFailed (projectId idempotencyKey : String) (prepared : Prepared) (payment : PaymentRecord)
      (refusedWith : LightningError) (now : DateTime) (error : StorageError) (after : Db)
      (call : Db.transitionPayment now none payment.id .failed (refusal refusedWith) db =
        (.error error, after)) :
      Acted env db (.send projectId idempotencyKey (.refuse prepared payment refusedWith))
        (.refuse now)
        ⟨after, .idle, [.returned projectId idempotencyKey (.error error.toApiError)]⟩
  | failed (projectId idempotencyKey : String) (prepared : Prepared) (payment : PaymentRecord)
      (refusedWith : LightningError) (now : DateTime) (failed : Transitioned) (after : Db)
      (call : Db.transitionPayment now none payment.id .failed (refusal refusedWith) db =
        (.ok failed, after)) :
      Acted env db (.send projectId idempotencyKey (.refuse prepared payment refusedWith))
        (.refuse now)
        ⟨after, .idle, .returned projectId idempotencyKey (.ok ⟨failed.payment, true⟩) ::
          storedBy .sender failed⟩
  | notReconciled (projectId id : String) :
      Acted env db .idle (.reconcile projectId id) ⟨db, .idle, []⟩
  | reconciling (projectId id : String) (payment : PaymentRecord)
      (found : db.getPayment projectId id = .ok payment) :
      Acted env db .idle (.reconcile projectId id) ⟨db, reconcileNext [payment], []⟩
  | reconcilingAll :
      Acted env db .idle .reconcileAll ⟨db, reconcileNext db.unresolvedPayments, []⟩
  | undecided (payment : PaymentRecord) (rest : List PaymentRecord)
      (nodeView : Option NodePayment) (none_ : reconcileDecision payment.status nodeView = none) :
      Acted env db (.reconcile payment .look rest) (.look nodeView)
        ⟨db, reconcileNext rest, [.looked payment.paymentHash nodeView]⟩
  | passing (payment : PaymentRecord) (rest : List PaymentRecord) (nodeView : Option NodePayment)
      (next : PaymentStatus) (resolution : Resolution)
      (decided : reconcileDecision payment.status nodeView = some (next, resolution))
      (passes : passesPending payment.status next = true) :
      Acted env db (.reconcile payment .look rest) (.look nodeView)
        ⟨db, .reconcile payment (.passPending nodeView next resolution) rest,
          [.looked payment.paymentHash nodeView]⟩
  | settling (payment : PaymentRecord) (rest : List PaymentRecord) (nodeView : Option NodePayment)
      (next : PaymentStatus) (resolution : Resolution)
      (decided : reconcileDecision payment.status nodeView = some (next, resolution))
      (direct : passesPending payment.status next = false) :
      Acted env db (.reconcile payment .look rest) (.look nodeView)
        ⟨db, .reconcile payment (.settle nodeView next resolution) rest,
          [.looked payment.paymentHash nodeView]⟩
  | passFailed (payment : PaymentRecord) (rest : List PaymentRecord)
      (nodeView : Option NodePayment) (next : PaymentStatus) (resolution : Resolution)
      (now : DateTime) (error : StorageError) (after : Db)
      (call : Db.transitionPayment now none payment.id .pending {} db =
        (.error error, after)) :
      Acted env db (.reconcile payment (.passPending nodeView next resolution) rest)
        (.passPending now) ⟨after, .idle, []⟩
  | passed (payment : PaymentRecord) (rest : List PaymentRecord) (nodeView : Option NodePayment)
      (next : PaymentStatus) (resolution : Resolution) (now : DateTime) (pending : Transitioned)
      (after : Db) (call : Db.transitionPayment now none payment.id .pending {} db =
        (.ok pending, after)) :
      Acted env db (.reconcile payment (.passPending nodeView next resolution) rest)
        (.passPending now)
        ⟨after, .reconcile payment (.settle nodeView next resolution) rest,
          storedBy (.reconciler nodeView) pending⟩
  | settleFailed (payment : PaymentRecord) (rest : List PaymentRecord)
      (nodeView : Option NodePayment) (next : PaymentStatus) (resolution : Resolution)
      (now : DateTime) (error : StorageError) (after : Db)
      (call : Db.transitionPayment now none payment.id next resolution db =
        (.error error, after)) :
      Acted env db (.reconcile payment (.settle nodeView next resolution) rest) (.settle now)
        ⟨after, .idle, []⟩
  | settled (payment : PaymentRecord) (rest : List PaymentRecord) (nodeView : Option NodePayment)
      (next : PaymentStatus) (resolution : Resolution) (now : DateTime) (settled : Transitioned)
      (after : Db) (call : Db.transitionPayment now none payment.id next resolution db =
        (.ok settled, after)) :
      Acted env db (.reconcile payment (.settle nodeView next resolution) rest) (.settle now)
        ⟨after, reconcileNext rest, storedBy (.reconciler nodeView) settled⟩
  | delivered (event : NodeEvent) :
      Acted env db .idle (.deliver event)
        ⟨db, .event event (concernsStored db event) .handle, [.delivered event]⟩
  | received (paymentHash : String) (amountMsat : ℕ) (known : Bool) (now : DateTime)
      (answer : Except StorageError (Option InvoiceRecord)) (after : Db)
      (call : Db.markInvoicePaid now (receivedKey paymentHash) paymentHash amountMsat db =
        (answer, after)) :
      Acted env db (.event (.paymentReceived paymentHash amountMsat) known .handle) (.receive now)
        ⟨after, .event (.paymentReceived paymentHash amountMsat) known
          (.handled (eventResult answer)), []⟩
  | ignored (event : NodeEvent) (known : Bool) (tie : String)
      (notReceived : ∀ paymentHash amountMsat, event ≠ .paymentReceived paymentHash amountMsat)
      (irrelevant : outcomeOf event = none) :
      Acted env db (.event event known .handle) (.pick tie)
        ⟨db, .event event known (.handled (.ok ())), []⟩
  | unmatched (event : NodeEvent) (known : Bool) (tie : String) (outcome : EventOutcome)
      (resolves : outcomeOf event = some outcome)
      (missing : db.findUnresolvedPaymentByHash outcome.paymentHash tie = none) :
      Acted env db (.event event known .handle) (.pick tie)
        ⟨db, .event event known (.handled (.ok ())), []⟩
  | picked (event : NodeEvent) (known : Bool) (tie : String) (outcome : EventOutcome)
      (resolves : outcomeOf event = some outcome) (payment : PaymentRecord)
      (found : db.findUnresolvedPaymentByHash outcome.paymentHash tie = some payment) :
      Acted env db (.event event known .handle) (.pick tie)
        ⟨db, .event event known (.apply outcome payment), []⟩
  | applyFailed (event : NodeEvent) (known : Bool) (outcome : EventOutcome)
      (payment : PaymentRecord) (now : DateTime) (error : StorageError) (after : Db)
      (call : Db.transitionPayment now (some (outcome.dedupeKey payment.id)) payment.id
        outcome.next outcome.resolution db =
        (.error error, after)) :
      Acted env db (.event event known (.apply outcome payment)) (.apply now)
        ⟨after, .event event known (.handled (.error (classify error))), []⟩
  | applied (event : NodeEvent) (known : Bool) (outcome : EventOutcome) (payment : PaymentRecord)
      (now : DateTime) (applied : Transitioned) (after : Db)
      (call : Db.transitionPayment now (some (outcome.dedupeKey payment.id)) payment.id
        outcome.next outcome.resolution db =
        (.ok applied, after)) :
      Acted env db (.event event known (.apply outcome payment)) (.apply now)
        ⟨after, .event event known (.handled (.ok ())), storedBy (.handler event) applied⟩
  | acknowledged (event : NodeEvent) (known : Bool) (result : Except EventError Unit)
      (ends : acknowledges result = true) :
      Acted env db (.event event known (.handled result)) .acknowledge
        ⟨db, .idle, [.acknowledged event known]⟩
  | retried (event : NodeEvent) (known : Bool) (result : Except EventError Unit)
      (ends : acknowledges result = false) :
      Acted env db (.event event known (.handled result)) .retry
        ⟨db, .event event known .handle, []⟩
  | cancelled (task : Task) : Acted env db task .cancel ⟨db, .idle, []⟩

theorem acted_of_send {env : Env} {db : Db} {projectId idempotencyKey : String}
    {phase : SendPhase} {action : TaskAction} {outcome : Outcome}
    (acted : phase.act env db projectId idempotencyKey action = some outcome) :
    Acted env db (.send projectId idempotencyKey phase) action outcome := by
  cases phase with
  | parse request =>
      cases action with
      | parse clock =>
          simp only [SendPhase.act] at acted
          split at acted
          · rename_i error failed
            cases acted
            exact .parseFailed projectId idempotencyKey request clock error failed
          · rename_i prepared done
            cases acted
            exact .parsed projectId idempotencyKey request clock prepared done
      | _ => cases acted
  | begin_ request prepared =>
      cases action with
      | begin_ now id =>
          simp only [SendPhase.act] at acted
          split at acted
          · rename_i error after call
            cases acted
            exact .beginFailed projectId idempotencyKey request prepared now id error after
              call
          · rename_i begun after call
            obtain ⟨payment, created⟩ := begun
            cases created with
            | true =>
                cases acted
                exact .begun projectId idempotencyKey request prepared now id payment after
                  call
            | false =>
                cases acted
                exact .replayed projectId idempotencyKey request prepared now id payment after
                  call
      | _ => cases acted
  | persist prepared payment =>
      cases action with
      | persist now =>
          simp only [SendPhase.act] at acted
          split at acted
          · rename_i error after call
            cases acted
            exact .persistFailed projectId idempotencyKey prepared payment now error after
              call
          · rename_i pending after call
            cases acted
            exact .persisted projectId idempotencyKey prepared payment now pending after
              call
      | _ => cases acted
  | dispatch prepared payment pending =>
      cases action with
      | dispatch answer =>
          cases answer with
          | error error =>
              cases acted
              exact .refused projectId idempotencyKey prepared payment pending error
          | ok nodeId =>
              cases acted
              exact .accepted projectId idempotencyKey prepared payment pending nodeId
      | _ => cases acted
  | refuse prepared payment error =>
      cases action with
      | refuse now =>
          simp only [SendPhase.act] at acted
          split at acted
          · rename_i error after call
            cases acted
            exact .failFailed projectId idempotencyKey prepared payment _ now error after
              call
          · rename_i failed after call
            cases acted
            exact .failed projectId idempotencyKey prepared payment _ now failed after
              call
      | _ => cases acted

theorem acted_of_reconcile {env : Env} {db : Db} {payment : PaymentRecord}
    {rest : List PaymentRecord} {phase : ReconcilePhase} {action : TaskAction} {outcome : Outcome}
    (acted : phase.act db payment rest action = some outcome) :
    Acted env db (.reconcile payment phase rest) action outcome := by
  cases phase with
  | look =>
      cases action with
      | look nodeView =>
          simp only [ReconcilePhase.act] at acted
          split at acted
          · rename_i none_
            cases acted
            exact .undecided payment rest nodeView none_
          · rename_i next resolution decided
            cases passes : passesPending payment.status next with
            | true =>
                rw [if_pos passes] at acted
                cases acted
                exact .passing payment rest nodeView next resolution decided passes
            | false =>
                rw [if_neg (by rw [passes]; decide)] at acted
                cases acted
                exact .settling payment rest nodeView next resolution decided passes
      | _ => cases acted
  | passPending nodeView next resolution =>
      cases action with
      | passPending now =>
          simp only [ReconcilePhase.act] at acted
          split at acted
          · rename_i error after call
            cases acted
            exact .passFailed payment rest nodeView next resolution now error _
              call
          · rename_i pending after call
            cases acted
            exact .passed payment rest nodeView next resolution now pending _
              call
      | _ => cases acted
  | settle nodeView next resolution =>
      cases action with
      | settle now =>
          simp only [ReconcilePhase.act] at acted
          split at acted
          · rename_i error after call
            cases acted
            exact .settleFailed payment rest nodeView next resolution now error _
              call
          · rename_i settled after call
            cases acted
            exact .settled payment rest nodeView next resolution now settled _
              call
      | _ => cases acted

theorem acted_of_event {env : Env} {db : Db} {event : NodeEvent} {known : Bool}
    {phase : EventPhase} {action : TaskAction} {outcome : Outcome}
    (acted : phase.act db event known action = some outcome) :
    Acted env db (.event event known phase) action outcome := by
  cases phase with
  | handle =>
      cases action with
      | receive now =>
          cases event with
          | paymentReceived paymentHash amountMsat =>
              cases acted
              exact .received paymentHash amountMsat known now _ _ rfl
          | _ => cases acted
      | pick tie =>
          have notReceived : ∀ paymentHash amountMsat,
              event ≠ .paymentReceived paymentHash amountMsat := by
            rintro paymentHash amountMsat rfl
            cases acted
          cases resolves : outcomeOf event with
          | none =>
              have ends : some (Outcome.mk db (.event event known (.handled (.ok ()))) []) =
                  some outcome := by
                rw [← acted]
                cases event with
                | paymentReceived paymentHash amountMsat =>
                    exact absurd rfl (notReceived paymentHash amountMsat)
                | _ => simp only [EventPhase.act, resolves]
              cases ends
              exact .ignored event known tie notReceived resolves
          | some resolving =>
              cases found : db.findUnresolvedPaymentByHash resolving.paymentHash tie with
              | none =>
                  have ends : some (Outcome.mk db (.event event known (.handled (.ok ()))) []) =
                      some outcome := by
                    rw [← acted]
                    cases event with
                    | paymentReceived paymentHash amountMsat =>
                        exact absurd rfl (notReceived paymentHash amountMsat)
                    | _ => simp only [EventPhase.act, resolves, found]
                  cases ends
                  exact .unmatched event known tie resolving resolves found
              | some payment =>
                  have ends : some (Outcome.mk db
                      (.event event known (.apply resolving payment)) []) = some outcome := by
                    rw [← acted]
                    cases event with
                    | paymentReceived paymentHash amountMsat =>
                        exact absurd rfl (notReceived paymentHash amountMsat)
                    | _ => simp only [EventPhase.act, resolves, found]
                  cases ends
                  exact .picked event known tie resolving resolves payment found
      | _ => cases acted
  | apply resolving payment =>
      cases action with
      | apply now =>
          simp only [EventPhase.act] at acted
          split at acted
          · rename_i error after call
            cases acted
            exact .applyFailed event known resolving payment now error _
              call
          · rename_i applied after call
            cases acted
            exact .applied event known resolving payment now applied _
              call
      | _ => cases acted
  | handled result =>
      cases action with
      | acknowledge =>
          simp only [EventPhase.act] at acted
          split at acted
          · rename_i ends
            cases acted
            exact .acknowledged event known result ends
          · cases acted
      | retry =>
          simp only [EventPhase.act] at acted
          split at acted
          · cases acted
          · rename_i ends
            cases acted
            exact .retried event known result (Bool.not_eq_true _ ▸ ends)
      | _ => cases acted

/-- **A step of a task takes one of the listed exits.** -/
theorem acted_of_act {env : Env} {db : Db} {task : Task} {action : TaskAction} {outcome : Outcome}
    (acted : task.act env db action = some outcome) : Acted env db task action outcome := by
  cases task with
  | idle =>
      cases action with
      | request projectId idempotencyKey request =>
          cases acted
          exact .requested projectId idempotencyKey request
      | reconcile projectId id =>
          simp only [Task.act] at acted
          split at acted
          · cases acted
            exact .notReconciled projectId id
          · rename_i payment found
            cases acted
            exact .reconciling projectId id payment found
      | reconcileAll =>
          cases acted
          exact .reconcilingAll
      | deliver event =>
          cases acted
          exact .delivered event
      | _ => cases acted
  | send projectId idempotencyKey phase =>
      cases action with
      | cancel =>
          cases acted
          exact .cancelled _
      | _ => exact acted_of_send acted
  | reconcile payment phase rest =>
      cases action with
      | cancel =>
          cases acted
          exact .cancelled _
      | _ => exact acted_of_reconcile acted
  | event event known phase =>
      cases action with
      | cancel =>
          cases acted
          exact .cancelled _
      | _ => exact acted_of_event acted

/-! ## The steps of the daemon -/

inductive Stepped (env : Env) (world : World) : Action → World → Prop where
  | acted (task : ℕ) (action : TaskAction) (outcome : Outcome)
      (acted : Acted env world.db (world.tasks task) action outcome) :
      Stepped env world (.act task action) (world.put task outcome)
  | crashed : Stepped env world .crash { world with tasks := fun _ => .idle }
  | called (call : Call) (other : call.isEngine = false) :
      Stepped env world (.call call) { world with db := world.db.perform call }

theorem stepped_of_step {env : Env} {world next : World} {action : Action}
    (step : (daemon env).step world action = some next) : Stepped env world action next := by
  cases action with
  | act task action =>
      obtain ⟨outcome, acted, rfl⟩ := Option.map_eq_some_iff.mp step
      exact .acted task action outcome (acted_of_act acted)
  | crash =>
      cases step
      exact .crashed
  | call call =>
      simp only [daemon, World.step] at step
      split at step
      · cases step
      · rename_i other
        cases step
        exact .called call (Bool.not_eq_true _ ▸ other)

/-- The node is asked about the payment the task is about to send. -/
theorem Acted.dispatched {env : Env} {db : Db} {task : Task} {action : TaskAction}
    {outcome : Outcome} (acted : Acted env db task action outcome)
    {projectId idempotencyKey id paymentHash bolt11 : String} {amountMsat : Option ℕ}
    {answer : Except LightningError String}
    (member : Entry.dispatched projectId idempotencyKey id paymentHash bolt11 amountMsat answer ∈
      outcome.entries) :
    ∃ prepared payment pending,
      task = .send projectId idempotencyKey (.dispatch prepared payment pending) ∧
        payment.id = id ∧ prepared.paymentHash = paymentHash ∧ action = .dispatch answer := by
  cases acted with
  | accepted project key prepared payment pending nodeId =>
      simp only [List.mem_cons, Entry.dispatched.injEq, reduceCtorEq, List.not_mem_nil,
        or_false, false_or] at member
      obtain ⟨rfl, rfl, rfl, rfl, -, -, rfl⟩ := member
      exact ⟨prepared, payment, pending, rfl, rfl, rfl, rfl⟩
  | refused project key prepared payment pending error =>
      simp only [List.mem_cons, Entry.dispatched.injEq, List.not_mem_nil, or_false] at member
      obtain ⟨rfl, rfl, rfl, rfl, -, -, rfl⟩ := member
      exact ⟨prepared, payment, pending, rfl, rfl, rfl, rfl⟩
  | _ => simp [storedBy] at member

/-- A step of a task is a storage call or leaves the database alone. -/
theorem Acted.perform {env : Env} {db : Db} {task : Task} {action : TaskAction} {outcome : Outcome}
    (acted : Acted env db task action outcome) :
    outcome.db = db ∨ ∃ call, outcome.db = db.perform call := by
  cases acted with
  | beginFailed _ _ _ _ _ _ _ _ call | begun _ _ _ _ _ _ _ _ call
  | replayed _ _ _ _ _ _ _ _ call =>
      exact .inr ⟨.beginPayment _ _, (congrArg Prod.snd call).symm⟩
  | persistFailed _ _ _ _ _ _ _ call | persisted _ _ _ _ _ _ _ call
  | failFailed _ _ _ _ _ _ _ _ call | failed _ _ _ _ _ _ _ _ call
  | passFailed _ _ _ _ _ _ _ _ call | passed _ _ _ _ _ _ _ _ call
  | settleFailed _ _ _ _ _ _ _ _ call | settled _ _ _ _ _ _ _ _ call
  | applyFailed _ _ _ _ _ _ _ call | applied _ _ _ _ _ _ _ call =>
      exact .inr ⟨.transitionPayment _ _ _ _ _, (congrArg Prod.snd call).symm⟩
  | received _ _ _ _ _ _ call =>
      exact .inr ⟨.markInvoicePaid _ _ _ _, (congrArg Prod.snd call).symm⟩
  | _ => exact .inl rfl

/-- A step of a task leaves the tables of the sandbox alone. -/
theorem Acted.sameSandbox {env : Env} {db : Db} {task : Task} {action : TaskAction}
    {outcome : Outcome} (acted : Acted env db task action outcome) :
    Db.SameSandbox db outcome.db := by
  have frame : ∀ call : Call, call.isSandbox = false → outcome.db = db.perform call →
      Db.SameSandbox db outcome.db := by
    intro call other performed
    rw [performed]
    exact Db.perform_sameSandbox other db
  cases acted with
  | beginFailed _ _ _ _ _ _ _ _ call | begun _ _ _ _ _ _ _ _ call
  | replayed _ _ _ _ _ _ _ _ call =>
      exact frame (.beginPayment _ _) rfl (congrArg Prod.snd call).symm
  | persistFailed _ _ _ _ _ _ _ call | persisted _ _ _ _ _ _ _ call
  | failFailed _ _ _ _ _ _ _ _ call | failed _ _ _ _ _ _ _ _ call
  | passFailed _ _ _ _ _ _ _ _ call | passed _ _ _ _ _ _ _ _ call
  | settleFailed _ _ _ _ _ _ _ _ call | settled _ _ _ _ _ _ _ _ call
  | applyFailed _ _ _ _ _ _ _ call | applied _ _ _ _ _ _ _ call =>
      exact frame (.transitionPayment _ _ _ _ _) rfl (congrArg Prod.snd call).symm
  | received _ _ _ _ _ _ call =>
      exact frame (.markInvoicePaid _ _ _ _) rfl (congrArg Prod.snd call).symm
  | _ => exact .refl db

/-- An event is acknowledged by the task that has handled it. -/
theorem Acted.acknowledges {env : Env} {db : Db} {task : Task} {action : TaskAction}
    {outcome : Outcome} (acted : Acted env db task action outcome) {event : NodeEvent}
    {known : Bool} (member : Entry.acknowledged event known ∈ outcome.entries) :
    ∃ result, task = .event event known (.handled result) ∧
      Safrod.acknowledges result = true := by
  cases acted with
  | acknowledged event known result ends =>
      simp only [List.mem_cons, Entry.acknowledged.injEq, List.not_mem_nil, or_false] at member
      obtain ⟨rfl, rfl⟩ := member
      exact ⟨result, rfl, ends⟩
  | _ => simp [storedBy] at member

/-- The node delivers an event to an idle task. -/
theorem Acted.delivers {env : Env} {db : Db} {task : Task} {action : TaskAction}
    {outcome : Outcome} (acted : Acted env db task action outcome) {event : NodeEvent}
    (member : Entry.delivered event ∈ outcome.entries) : action = .deliver event := by
  cases acted with
  | delivered delivered =>
      simp only [List.mem_cons, Entry.delivered.injEq, List.not_mem_nil, or_false] at member
      rw [member]
  | _ => simp [storedBy] at member

/-- The node is asked for its record by a reconciliation. -/
theorem Acted.looks {env : Env} {db : Db} {task : Task} {action : TaskAction}
    {outcome : Outcome} (acted : Acted env db task action outcome) {paymentHash : String}
    {nodeView : Option NodePayment}
    (member : Entry.looked paymentHash nodeView ∈ outcome.entries) :
    ∃ payment rest, task = .reconcile payment .look rest ∧ payment.paymentHash = paymentHash ∧
      action = .look nodeView := by
  cases acted with
  | undecided payment rest view none_ =>
      simp only [List.mem_cons, Entry.looked.injEq, List.not_mem_nil, or_false] at member
      obtain ⟨rfl, rfl⟩ := member
      exact ⟨payment, rest, rfl, rfl, rfl⟩
  | passing payment rest view next resolution decided passes =>
      simp only [List.mem_cons, Entry.looked.injEq, List.not_mem_nil, or_false] at member
      obtain ⟨rfl, rfl⟩ := member
      exact ⟨payment, rest, rfl, rfl, rfl⟩
  | settling payment rest view next resolution decided direct =>
      simp only [List.mem_cons, Entry.looked.injEq, List.not_mem_nil, or_false] at member
      obtain ⟨rfl, rfl⟩ := member
      exact ⟨payment, rest, rfl, rfl, rfl⟩
  | _ => simp [storedBy] at member

/-- A cancellation leaves the database alone. -/
theorem Acted.cancels {env : Env} {db : Db} {task : Task} {outcome : Outcome}
    (acted : Acted env db task .cancel outcome) : outcome.db = db := by
  cases acted
  rfl

/-- A reconciliation about to write writes, or ends without a write. -/
theorem Acted.settles {env : Env} {db : Db} {payment : PaymentRecord}
    {nodeView : Option NodePayment} {next : PaymentStatus} {resolution : Resolution}
    {rest : List PaymentRecord} {action : TaskAction} {outcome : Outcome}
    (acted : Acted env db (.reconcile payment (.settle nodeView next resolution) rest) action
      outcome) : (∃ now, action = .settle now) ∨ outcome.entries = [] := by
  cases acted with
  | settleFailed payment rest nodeView next resolution now error after call =>
      exact .inl ⟨now, rfl⟩
  | settled payment rest nodeView next resolution now settled after call => exact .inl ⟨now, rfl⟩
  | cancelled task => exact .inr rfl

/-- **The database of a running daemon is one that storage calls reach.** -/
theorem storage_reachable {env : Env} {world : World} (reached : (daemon env).Reachable world) :
    storage.Reachable world.db := by
  refine reached.project World.db ?_ ?_
  · rintro _ rfl
    rfl
  · intro world action next _ step
    cases stepped_of_step step with
    | acted task action outcome acted =>
        rcases acted.perform with same | ⟨call, performed⟩
        · exact .inl same
        · exact .inr ⟨call, congrArg some performed.symm⟩
    | crashed => exact .inl rfl
    | called call other => exact .inr ⟨call, rfl⟩

/-! ## What a step writes -/

/-- A call of `transitionPayment` that a task is about to make. -/
structure Move where
  dedupeKey : Option String
  paymentId : String
  next : PaymentStatus
  resolution : Resolution
  author : Author

def Task.move : Task → Option Move
  | .send _ _ (.persist _ payment) => some ⟨none, payment.id, .pending, {}, .sender⟩
  | .send _ _ (.refuse _ payment error) =>
      some ⟨none, payment.id, .failed, refusal error, .sender⟩
  | .reconcile payment (.passPending nodeView _ _) _ =>
      some ⟨none, payment.id, .pending, {}, .reconciler nodeView⟩
  | .reconcile payment (.settle nodeView next resolution) _ =>
      some ⟨none, payment.id, next, resolution, .reconciler nodeView⟩
  | .event nodeEvent _ (.apply outcome payment) =>
      some ⟨some (outcome.dedupeKey payment.id), payment.id, outcome.next, outcome.resolution,
        .handler nodeEvent⟩
  | _ => none

/-- What a step of a task does to the database, with the writes its entries
record. -/
inductive Wrote (task : Task) (db : Db) : Db → List Entry → Prop where
  | nothing (entries : List Entry)
      (silent : ∀ id status author, Entry.stored id status author ∉ entries) :
      Wrote task db db entries
  | credited (paymentHash : String) (amountMsat : ℕ) (known : Bool)
      (receives : task = .event (.paymentReceived paymentHash amountMsat) known .handle)
      (now : DateTime) (row : InvoiceRow) (found : db.findInvoiceByHash paymentHash = some row)
      (stillOpen : row.status = .open_) (unclaimed : ¬ db.Claimed (receivedKey paymentHash)) :
      Wrote task db ((db.withNodeEvent now (receivedKey paymentHash) "payment_received"
        (Db.receivedPayload paymentHash amountMsat)).afterPaid now amountMsat row) []
  | begun (projectId idempotencyKey : String) (request : SendRequest) (prepared : Prepared)
      (begins : task = .send projectId idempotencyKey (.begin_ request prepared))
      (now : DateTime) (id : String)
      (keyFree : db.findPaymentByKey projectId idempotencyKey = none)
      (idFree : db.findPayment id = none) :
      Wrote task db
        (db.withPayment (Db.createdRow now (prepared.newPayment id projectId idempotencyKey)))
        [.begun projectId idempotencyKey id request, .stored id .created .sender]
  | moved (move : Move) (moves : task.move = some move) (now : DateTime) (fee : Option ℤ)
      (row : PaymentRow) (found : db.findPayment move.paymentId = some row)
      (unclaimed : ∀ key, move.dedupeKey = some key → ¬ db.Claimed key)
      (legal : row.status.canTransitionTo move.next = true) (entries : List Entry)
      (recorded : ∀ id status author, Entry.stored id status author ∈ entries ↔
        id = row.id ∧ status = move.next ∧ author = move.author) :
      Wrote task db (db.afterMove now move.dedupeKey move.next fee move.resolution row) entries

/-- A call of `transitionPayment` that reports an error writes nothing. -/
theorem wrote_of_error {task : Task} {now : DateTime} {dedupeKey : Option String}
    {paymentId : String} {next : PaymentStatus} {resolution : Resolution} {db after : Db}
    {error : StorageError} {entries : List Entry}
    (call : Db.transitionPayment now dedupeKey paymentId next resolution db = (.error error, after))
    (silent : ∀ id status author, Entry.stored id status author ∉ entries) :
    Wrote task db after entries := by
  cases Db.transitionPayment_moved call with
  | missing absent => exact .nothing entries silent
  | illegal row found illegal => exact .nothing entries silent
  | outOfRange row found legal fee given large => exact .nothing entries silent

/-- A call of `transitionPayment` that succeeds moves its payment or finds it
moved. -/
theorem wrote_of_ok {task : Task} (move : Move) {now : DateTime} {db after : Db}
    {transitioned : Transitioned} {entries : List Entry} (moves : task.move = some move)
    (call : Db.transitionPayment now move.dedupeKey move.paymentId move.next move.resolution db =
      (.ok transitioned, after))
    (recorded : ∀ id status author, Entry.stored id status author ∈ entries ↔
      Entry.stored id status author ∈ storedBy move.author transitioned) :
    Wrote task db after entries := by
  cases Db.transitionPayment_moved call with
  | replayed row found key keyed claimed =>
      refine .nothing entries ?_
      intro id status author member
      cases (recorded id status author).mp member
  | repeated row found same =>
      refine .nothing entries ?_
      intro id status author member
      cases (recorded id status author).mp member
  | moved row found unclaimed legal fee fits =>
      refine .moved move moves now fee row found unclaimed legal entries ?_
      intro id status author
      rw [recorded, storedBy, if_pos rfl, List.mem_singleton, Entry.stored.injEq]
      rfl

/-- **A step of a task writes nothing, credits an invoice, creates a payment or
makes the move the task was about to make.** -/
theorem Acted.wrote {env : Env} {db : Db} {task : Task} {action : TaskAction} {outcome : Outcome}
    (acted : Acted env db task action outcome) : Wrote task db outcome.db outcome.entries := by
  cases acted with
  | beginFailed projectId idempotencyKey request prepared now id error after call =>
      have same : after = db := by
        cases Db.beginPayment_begun call <;> rfl
      subst same
      refine .nothing _ ?_
      simp
  | begun projectId idempotencyKey request prepared now id payment after call =>
      cases Db.beginPayment_begun call with
      | inserted fits positive keyFree idFree =>
          exact .begun projectId idempotencyKey request prepared rfl now id keyFree idFree
  | replayed projectId idempotencyKey request prepared now id payment after call =>
      cases Db.beginPayment_begun call with
      | existing row found same =>
          refine .nothing _ ?_
          simp
  | persistFailed projectId idempotencyKey prepared payment now error after call =>
      exact wrote_of_error call (by simp)
  | persisted projectId idempotencyKey prepared payment now pending after call =>
      exact wrote_of_ok ⟨none, payment.id, .pending, {}, .sender⟩ rfl call (by simp)
  | failFailed projectId idempotencyKey prepared payment refusedWith now error after call =>
      exact wrote_of_error call (by simp)
  | failed projectId idempotencyKey prepared payment refusedWith now failed after call =>
      exact wrote_of_ok ⟨none, payment.id, .failed, refusal refusedWith, .sender⟩ rfl call (by simp)
  | passFailed payment rest nodeView next resolution now error after call =>
      exact wrote_of_error call (by simp)
  | passed payment rest nodeView next resolution now pending after call =>
      exact wrote_of_ok ⟨none, payment.id, .pending, {}, .reconciler nodeView⟩ rfl call (by simp)
  | settleFailed payment rest nodeView next resolution now error after call =>
      exact wrote_of_error call (by simp)
  | settled payment rest nodeView next resolution now settled after call =>
      exact wrote_of_ok ⟨none, payment.id, next, resolution, .reconciler nodeView⟩ rfl call
        (by simp)
  | received paymentHash amountMsat known now answer after call =>
      cases Db.markInvoicePaid_credited call with
      | credited unclaimed row found stillOpen fits =>
          exact .credited paymentHash amountMsat known rfl now row found stillOpen unclaimed
      | replayed claimed => exact .nothing [] (by simp)
      | missing unclaimed absent => exact .nothing [] (by simp)
      | alreadyPaid unclaimed row found paid => exact .nothing [] (by simp)
      | illegal unclaimed row found expired => exact .nothing [] (by simp)
      | outOfRange unclaimed row found stillOpen large => exact .nothing [] (by simp)
  | applyFailed event known resolving payment now error after call =>
      exact wrote_of_error call (by simp)
  | applied event known resolving payment now applied after call =>
      exact wrote_of_ok ⟨some (resolving.dedupeKey payment.id), payment.id, resolving.next,
        resolving.resolution, .handler event⟩ rfl call (by simp)
  | _ => exact .nothing _ (by simp)

end Safrod

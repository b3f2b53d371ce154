import Safrod.Library.Machine
import Safrod.Storage.Deliveries

/-!
# Delivery workers

A worker claims a batch, sends its deliveries one after another and records each
outcome before it sends the next. `delivering` is the machine of any number of such
workers on one database: the clock, the requests and their answers, crashes,
replays, and the events and endpoints other code writes.

Durations are microseconds, like times, and there is one clock.
-/

set_option autoImplicit false

namespace Safrod

/-! ## Attempts -/

def second : ℕ := 1000000

structure DeliveryConfig where
  allowPrivate : Bool := false
  maxAttempts : ℤ := 8
  baseBackoff : ℕ := 5 * second
  maxBackoff : ℕ := 3600 * second
  requestTimeout : ℕ := 10 * second
  pollInterval : ℕ := second
  lease : ℕ := 60 * second

/-- `self.config.lease.as_secs() as i64`. -/
def DeliveryConfig.leaseSecs (config : DeliveryConfig) : ℤ :=
  Int.bmod ((config.lease / second : ℕ) : ℤ) (2 ^ 64)

/-- The delay doubles with each attempt up to a bound. A product that does not fit
its type is above the bound as well. -/
def backoff (attemptNumber : ℤ) (base bound : ℕ) : ℕ :=
  min (base * 2 ^ (min (max attemptNumber 1 - 1) 20).toNat) bound

/-- `chrono::Duration::from_std(delay).unwrap_or_default()`: a delay of more
milliseconds than an `i64` holds counts as none. -/
def fromStd (delay : ℕ) : ℕ := if delay ≤ i64Max * 1000 then delay else 0

/-- `delivery.attempts + 1`, an `i32`. -/
def attemptNumber (delivery : DueDelivery) : ℤ := Int.bmod (delivery.attempts + 1) (2 ^ 32)

def failure (config : DeliveryConfig) (now : DateTime) (attemptNumber : ℤ) (status : Option ℤ)
    (error : String) : DeliveryOutcome :=
  if config.maxAttempts ≤ attemptNumber then .failed status error
  else .retry status error
    (now + fromStd (backoff attemptNumber config.baseBackoff config.maxBackoff))

def Success (status : ℕ) : Prop := 200 ≤ status ∧ status < 300

instance (status : ℕ) : Decidable (Success status) :=
  inferInstanceAs (Decidable (200 ≤ status ∧ status < 300))

/-- The outcome of a request that was answered with a status, or that failed. -/
def attempt (config : DeliveryConfig) (now : DateTime) (delivery : DueDelivery) :
    Except String ℕ → DeliveryOutcome
  | .ok status =>
      if Success status then .delivered status
      else failure config now (attemptNumber delivery) (some status) ("http " ++ toString status)
  | .error message => failure config now (attemptNumber delivery) none message

/-! ## Workers -/

/-- Where a worker is in `deliver_due`. The end of its lease and the start of its
request are kept for the statements; the code has neither. -/
inductive Phase where
  | idle
  | holding (leaseEnd : DateTime) (due : List DueDelivery)
  | sending (leaseEnd since : DateTime) (current : DueDelivery) (rest : List DueDelivery)
  | answered (leaseEnd : DateTime) (current : DueDelivery) (outcome : DeliveryOutcome)
      (rest : List DueDelivery)

namespace Phase

/-- The head of the loop over the batch. -/
def resume (leaseEnd : DateTime) : List DueDelivery → Phase
  | [] => idle
  | due => holding leaseEnd due

/-- The claimed deliveries whose outcome is not recorded yet. -/
def held : Phase → List DueDelivery
  | idle => []
  | holding _ due => due
  | sending _ _ current rest => current :: rest
  | answered _ current _ rest => current :: rest

@[simp] theorem held_resume (leaseEnd : DateTime) (due : List DueDelivery) :
    (resume leaseEnd due).held = due := by
  cases due with
  | nil => rfl
  | cons head rest => rfl

/-- The lease of the batch ends at the time. -/
def LeasedUntil (leaseEnd : DateTime) : Phase → Prop
  | idle => False
  | holding until_ _ => until_ = leaseEnd
  | sending until_ _ _ _ => until_ = leaseEnd
  | answered until_ _ _ _ => until_ = leaseEnd

theorem leasedUntil_resume {leaseEnd other : DateTime} {due : List DueDelivery}
    (leased : (resume leaseEnd due).LeasedUntil other) : leaseEnd = other := by
  cases due with
  | nil => cases leased
  | cons head rest => exact leased

/-- A worker that goes on with part of what it holds. -/
theorem held_update {phases : ℕ → Phase} {worker other : ℕ} {phase : Phase}
    {delivery : DueDelivery} (fewer : ∀ delivery ∈ phase.held, delivery ∈ (phases worker).held)
    (member : delivery ∈ (Function.update phases worker phase other).held) :
    delivery ∈ (phases other).held := by
  by_cases same : other = worker
  · subst same
    rw [Function.update_self] at member
    exact fewer delivery member
  · rw [Function.update_of_ne same] at member
    exact member

end Phase

/-- What happened, for the statements about histories. -/
inductive DeliveryEvent where
  | started (worker : ℕ) (id : String) (time leaseEnd : DateTime)
  | answered (worker : ℕ) (id : String) (response : Except String ℕ)
  | recorded (worker : ℕ) (id : String) (outcome : DeliveryOutcome)
  | replayed (id : String)

structure DeliveryState where
  now : DateTime
  db : Db
  phases : ℕ → Phase
  /-- The newest entry first. -/
  log : List DeliveryEvent

inductive DeliveryAction where
  | tick (elapsed : ℕ)
  | emit (started : DateTime) (draws : Draws) (projectId kind resourceId : String) (data : Value)
      (simulated : Bool)
  | createEndpoint (id projectId url secret : String)
  | disableEndpoint (projectId id : String)
  | claim (worker : ℕ) (locked : List String)
  | start (worker : ℕ)
  | answer (worker : ℕ) (response : Except String ℕ)
  | record (worker : ℕ)
  | crash (worker : ℕ)
  | replay (projectId id : String)

namespace DeliveryState

def withPhase (state : DeliveryState) (worker : ℕ) (phase : Phase) : DeliveryState :=
  { state with phases := Function.update state.phases worker phase }

def withEntry (state : DeliveryState) (entry : DeliveryEvent) : DeliveryState :=
  { state with log := entry :: state.log }

def withDb (state : DeliveryState) (db : Db) : DeliveryState :=
  { state with db := db }

/-- A transaction that emits started no later than now; it fails where an identifier that it
draws is taken. A failed record ends the pass, and the rest of its batch stays leased. -/
def step (config : DeliveryConfig) (state : DeliveryState) : DeliveryAction → Option DeliveryState
  | .tick elapsed => some { state with now := state.now + elapsed }
  | .emit started draws projectId kind resourceId data simulated =>
      if started ≤ state.now ∧ (state.db.withDraws draws).TakesDraws projectId then
        some (state.withDb
          ((state.db.withDraws draws).emit started projectId kind resourceId data simulated))
      else none
  | .createEndpoint id projectId url secret =>
      some (state.withDb (Db.createWebhookEndpoint state.now id projectId url secret state.db).2)
  | .disableEndpoint projectId id =>
      some (state.withDb (Db.disableWebhookEndpoint projectId id state.db).2)
  | .claim worker locked =>
      match state.phases worker with
      | .idle =>
          match Db.claimDueDeliveries state.now 20 config.leaseSecs locked state.db with
          | (.ok due, db) => some ((state.withDb db).withPhase worker
              (.resume (state.now + makeInterval config.leaseSecs) due))
          | (.error _, db) => some (state.withDb db)
      | _ => none
  | .start worker =>
      match state.phases worker with
      | .holding leaseEnd (current :: rest) =>
          some ((state.withPhase worker (.sending leaseEnd state.now current rest)).withEntry
            (.started worker current.id state.now leaseEnd))
      | _ => none
  | .answer worker response =>
      match state.phases worker with
      | .sending leaseEnd _ current rest =>
          some ((state.withPhase worker (.answered leaseEnd current
            (attempt config state.now current response) rest)).withEntry
              (.answered worker current.id response))
      | _ => none
  | .record worker =>
      match state.phases worker with
      | .answered leaseEnd current outcome rest =>
          match Db.recordDelivery state.now current.id outcome state.db with
          | (.ok _, db) => some (((state.withDb db).withPhase worker
              (.resume leaseEnd rest)).withEntry (.recorded worker current.id outcome))
          | (.error _, db) => some ((state.withDb db).withPhase worker .idle)
      | _ => none
  | .crash worker => some (state.withPhase worker .idle)
  | .replay projectId id =>
      match Db.replayDelivery state.now projectId id state.db with
      | (.ok _, db) => some ((state.withDb db).withEntry (.replayed id))
      | (.error _, db) => some (state.withDb db)

end DeliveryState

/-- Any number of workers with one configuration, on a database that starts empty. -/
def delivering (config : DeliveryConfig) : Machine DeliveryState DeliveryAction where
  initial state := state.db = {} ∧ (∀ worker, state.phases worker = .idle) ∧ state.log = []
  step := DeliveryState.step config

namespace DeliveryState

/-! ## What a step does -/

/-- The changes a step can make. -/
inductive Stepped (config : DeliveryConfig) (state : DeliveryState) :
    DeliveryAction → DeliveryState → Prop where
  | ticked (elapsed : ℕ) :
      Stepped config state (.tick elapsed) { state with now := state.now + elapsed }
  | emitted (started : DateTime) (draws : Draws) (projectId kind resourceId : String)
      (data : Value) (simulated : Bool) (early : started ≤ state.now)
      (taken : (state.db.withDraws draws).TakesDraws projectId) :
      Stepped config state (.emit started draws projectId kind resourceId data simulated)
        (state.withDb
          ((state.db.withDraws draws).emit started projectId kind resourceId data simulated))
  | endpointsSet (action : DeliveryAction) (endpoints : List WebhookEndpoint)
      (unique : Table.KeyUnique (fun endpoint : WebhookEndpoint => endpoint.id)
          state.db.webhookEndpoints →
        Table.KeyUnique (fun endpoint : WebhookEndpoint => endpoint.id) endpoints) :
      Stepped config state action (state.withDb { state.db with webhookEndpoints := endpoints })
  | claimed (worker : ℕ) (locked : List String) (due : List DueDelivery)
      (idle : state.phases worker = .idle)
      (taken : ∀ delivery ∈ due, ∃ row ∈ state.db.webhookDeliveries, row.id = delivery.id ∧
        row.attempts = delivery.attempts ∧ row.id ∈ state.db.claimedIds state.now 20 locked)
      (distinct : Table.KeyUnique (fun row : DeliveryRecord => row.id)
          state.db.webhookDeliveries →
        Table.KeyUnique (fun delivery : DueDelivery => delivery.id) due) :
      Stepped config state (.claim worker locked)
        ((state.withDb (state.db.withLeased (state.db.claimedIds state.now 20 locked)
          (state.now + makeInterval config.leaseSecs))).withPhase worker
            (.resume (state.now + makeInterval config.leaseSecs) due))
  | started (worker : ℕ) (leaseEnd : DateTime) (current : DueDelivery) (rest : List DueDelivery)
      (holding : state.phases worker = .holding leaseEnd (current :: rest)) :
      Stepped config state (.start worker)
        ((state.withPhase worker (.sending leaseEnd state.now current rest)).withEntry
          (.started worker current.id state.now leaseEnd))
  | answered (worker : ℕ) (response : Except String ℕ) (leaseEnd since : DateTime)
      (current : DueDelivery) (rest : List DueDelivery)
      (sending : state.phases worker = .sending leaseEnd since current rest) :
      Stepped config state (.answer worker response)
        ((state.withPhase worker (.answered leaseEnd current
          (attempt config state.now current response) rest)).withEntry
            (.answered worker current.id response))
  | recorded (worker : ℕ) (leaseEnd : DateTime) (current : DueDelivery)
      (outcome : DeliveryOutcome) (rest : List DueDelivery)
      (answered : state.phases worker = .answered leaseEnd current outcome rest) :
      Stepped config state (.record worker)
        (((state.withDb (state.db.withRecorded state.now current.id outcome)).withPhase worker
          (.resume leaseEnd rest)).withEntry (.recorded worker current.id outcome))
  | dropped (action : DeliveryAction) (worker : ℕ) :
      Stepped config state action (state.withPhase worker .idle)
  | replayed (projectId id : String) :
      Stepped config state (.replay projectId id)
        ((state.withDb (state.db.withRequeued state.now projectId id)).withEntry (.replayed id))
  | unchanged (action : DeliveryAction) : Stepped config state action state

theorem step_stepped {config : DeliveryConfig} {state next : DeliveryState}
    {action : DeliveryAction} (step : state.step config action = some next) :
    Stepped config state action next := by
  cases action with
  | tick elapsed =>
      cases step
      exact .ticked elapsed
  | emit started draws projectId kind resourceId data simulated =>
      simp only [DeliveryState.step] at step
      split at step
      · rename_i allowed
        cases step
        exact .emitted started draws projectId kind resourceId data simulated allowed.1 allowed.2
      · cases step
  | createEndpoint id projectId url secret =>
      cases step
      rcases Db.createWebhookEndpoint_cases state.now id projectId url secret state.db with
        same | ⟨free, made⟩
      · rw [same]
        exact .unchanged _
      · rw [made]
        exact .endpointsSet _ _ fun unique => unique.append_singleton free
  | disableEndpoint projectId id =>
      cases step
      rcases Db.disableWebhookEndpoint_cases projectId id state.db with same | made
      · rw [same]
        exact .unchanged _
      · rw [made]
        exact .endpointsSet _ _ fun unique => unique.update fun _ => rfl
  | claim worker locked =>
      simp only [DeliveryState.step] at step
      split at step
      · rename_i idle
        obtain ⟨due, claim, taken, distinct⟩ := Db.claimDueDeliveries_spec state.now 20
          config.leaseSecs locked state.db
        rw [claim] at step
        cases step
        exact .claimed worker locked due idle taken distinct
      · cases step
  | start worker =>
      simp only [DeliveryState.step] at step
      split at step
      · rename_i leaseEnd current rest holding
        cases step
        exact .started worker leaseEnd current rest holding
      · cases step
  | answer worker response =>
      simp only [DeliveryState.step] at step
      split at step
      · rename_i leaseEnd since current rest sending
        cases step
        exact .answered worker response leaseEnd since current rest sending
      · cases step
  | record worker =>
      simp only [DeliveryState.step] at step
      split at step
      · rename_i leaseEnd current outcome rest answered
        rcases Db.recordDelivery_cases state.now current.id outcome state.db with
          ⟨error, failed⟩ | recorded
        · rw [failed] at step
          cases step
          exact .dropped _ worker
        · rw [recorded] at step
          cases step
          exact .recorded worker leaseEnd current outcome rest answered
      · cases step
  | crash worker =>
      cases step
      exact .dropped _ worker
  | replay projectId id =>
      simp only [DeliveryState.step] at step
      rcases Db.replayDelivery_cases state.now projectId id state.db with failed | done
      · rw [failed] at step
        cases step
        exact .unchanged _
      · rw [done] at step
        cases step
        exact .replayed projectId id

end DeliveryState

end Safrod

import Safrod.Legacy.Node

/-!
# What a node runs on

A node is generic in its fiat adapter and its Lightning backend: each is a state and the
answers it gives. The world of a node has both, the store, and a log of the calls that left
the node, newest first, for the statements about runs.

`SimulatedFiatAdapter` is the adapter of the demo. `Scripted` is a backend that answers
whatever its surroundings choose.
-/

set_option autoImplicit false

namespace Safrod.Legacy

/-- The boundary to a fiat rail. -/
class FiatAdapter (Adapter : Type) where
  reserve : FiatAmount → Adapter → Except AdapterError ReservationId × Adapter
  initiatePayout : ReservationId → String → String → Adapter →
    Except AdapterError PayoutOutcome × Adapter
  queryPayout : String → Adapter → Except AdapterError (Option PayoutOutcome) × Adapter
  cancelReservation : ReservationId → Adapter → Except AdapterError Unit × Adapter

/-- The boundary to the Lightning settlement layer. -/
class LightningSettlement (Lightning : Type) where
  createSettlementInvoice : SettlementId → Millisatoshis → Lightning →
    Except LightningError Bolt11Invoice × Lightning
  acceptSettlementInvoice : SettlementId → Millisatoshis → Bolt11Invoice → Lightning →
    Except LightningError Unit × Lightning
  release : SettlementId → Lightning → Except LightningError PaymentPreimage × Lightning
  refund : SettlementId → Lightning → Except LightningError Unit × Lightning

/-! ## The simulated adapter -/

inductive SimulatedPayoutBehavior where
  | confirmed
  | rejected (reason : String)
  | confirmedAfterTimeout

structure SimulatedFiatAdapter where
  reservations : List (ReservationId × FiatAmount) := []
  payouts : String → Option PayoutOutcome := fun _ => none
  behaviors : String → Option SimulatedPayoutBehavior := fun _ => none
  /-- The next identifier `ReservationId::new` draws. -/
  nextReservation : ReservationId := 0

namespace SimulatedFiatAdapter

def setBehavior (key : String) (behavior : SimulatedPayoutBehavior)
    (rail : SimulatedFiatAdapter) : SimulatedFiatAdapter :=
  { rail with behaviors := Function.update rail.behaviors key (some behavior) }

/-- The reservation is live. -/
def Holds (rail : SimulatedFiatAdapter) (reservation : ReservationId) : Prop :=
  ∃ entry ∈ rail.reservations, entry.1 = reservation

instance (rail : SimulatedFiatAdapter) (reservation : ReservationId) :
    Decidable (rail.Holds reservation) :=
  inferInstanceAs (Decidable (∃ entry ∈ rail.reservations, entry.1 = reservation))

def reserve (amount : FiatAmount) (rail : SimulatedFiatAdapter) :
    Except AdapterError ReservationId × SimulatedFiatAdapter :=
  (.ok rail.nextReservation, { rail with
    reservations := (rail.nextReservation, amount) :: rail.reservations
    nextReservation := rail.nextReservation + 1 })

def withPayout (key : String) (outcome : PayoutOutcome) (rail : SimulatedFiatAdapter) :
    SimulatedFiatAdapter :=
  { rail with payouts := Function.update rail.payouts key (some outcome) }

/-- A payout under a known key answers as it did. -/
def initiatePayout (reservation : ReservationId) (_beneficiary key : String)
    (rail : SimulatedFiatAdapter) : Except AdapterError PayoutOutcome × SimulatedFiatAdapter :=
  if rail.Holds reservation then
    match rail.payouts key with
    | some outcome => (.ok outcome, rail)
    | none =>
        match (rail.behaviors key).getD .confirmed with
        | .confirmed => (.ok .confirmed, rail.withPayout key .confirmed)
        | .rejected reason => (.error (.rejected reason), rail.withPayout key .failed)
        | .confirmedAfterTimeout => (.error .timeout, rail.withPayout key .confirmed)
  else (.error .reservationNotFound, rail)

def queryPayout (key : String) (rail : SimulatedFiatAdapter) :
    Except AdapterError (Option PayoutOutcome) × SimulatedFiatAdapter :=
  (.ok (rail.payouts key), rail)

def cancelReservation (reservation : ReservationId) (rail : SimulatedFiatAdapter) :
    Except AdapterError Unit × SimulatedFiatAdapter :=
  if rail.Holds reservation then
    (.ok (), { rail with
      reservations := rail.reservations.filter fun entry => entry.1 ≠ reservation })
  else (.error .reservationNotFound, rail)

instance : FiatAdapter SimulatedFiatAdapter where
  reserve := reserve
  initiatePayout := initiatePayout
  queryPayout := queryPayout
  cancelReservation := cancelReservation

end SimulatedFiatAdapter

/-! ## Backends that answer anything -/

/-- An adapter whose answers the surroundings choose. -/
structure ScriptedAdapter where
  reserve : FiatAmount → Except AdapterError ReservationId
  initiatePayout : ReservationId → String → String → Except AdapterError PayoutOutcome
  queryPayout : String → Except AdapterError (Option PayoutOutcome)
  cancelReservation : ReservationId → Except AdapterError Unit

instance : FiatAdapter ScriptedAdapter where
  reserve amount rail := (rail.reserve amount, rail)
  initiatePayout reservation beneficiary key rail :=
    (rail.initiatePayout reservation beneficiary key, rail)
  queryPayout key rail := (rail.queryPayout key, rail)
  cancelReservation reservation rail := (rail.cancelReservation reservation, rail)

/-- A Lightning backend whose answers the surroundings choose. -/
structure ScriptedLightning where
  createSettlementInvoice : SettlementId → Millisatoshis → Except LightningError Bolt11Invoice
  acceptSettlementInvoice : SettlementId → Millisatoshis → Bolt11Invoice →
    Except LightningError Unit
  release : SettlementId → Except LightningError PaymentPreimage
  refund : SettlementId → Except LightningError Unit

instance : LightningSettlement ScriptedLightning where
  createSettlementInvoice id amount lightning :=
    (lightning.createSettlementInvoice id amount, lightning)
  acceptSettlementInvoice id amount invoice lightning :=
    (lightning.acceptSettlementInvoice id amount invoice, lightning)
  release id lightning := (lightning.release id, lightning)
  refund id lightning := (lightning.refund id, lightning)

/-! ## The world of a node -/

inductive LogEntry where
  /-- A call that left the node, its answer, and the state in which the settlement it names
  was stored. -/
  | called (call : NodeCall) (answer : NodeAnswer call) (stored : Option SettlementState)
  /-- An attestation of the authorized peer came in, and the state in which its settlement
  was stored. -/
  | received (attestation : PayoutAttestation) (stored : Option SettlementState)
  /-- An attestation was applied. -/
  | applied (attestation : PayoutAttestation)

structure World (Adapter Lightning : Type) where
  store : SettlementStore := .empty
  adapter : Adapter
  lightning : Lightning
  log : List LogEntry := []

/-- The settlement a call to the Lightning backend names. -/
def NodeCall.settlement : NodeCall → Option SettlementId
  | .createSettlementInvoice id _ => some id
  | .acceptSettlementInvoice id _ _ => some id
  | .release id => some id
  | .refund id => some id
  | _ => none

/-- The call leaves the node. -/
def NodeCall.isExternal : NodeCall → Bool
  | .get _ | .put _ | .listPending => false
  | _ => true

section Worlds

variable {Adapter Lightning : Type} [FiatAdapter Adapter] [LightningSettlement Lightning]

namespace World

def logCall (call : NodeCall) (answer : NodeAnswer call) (world : World Adapter Lightning) :
    World Adapter Lightning :=
  { world with
    log := .called call answer
      (call.settlement.bind fun id => (world.store.get id).map (·.state)) :: world.log }

def withAdapter (call : NodeCall)
    (answered : NodeAnswer call × Adapter) (world : World Adapter Lightning) :
    NodeAnswer call × World Adapter Lightning :=
  (answered.1, { world with adapter := answered.2 }.logCall call answered.1)

def withLightning (call : NodeCall)
    (answered : NodeAnswer call × Lightning) (world : World Adapter Lightning) :
    NodeAnswer call × World Adapter Lightning :=
  (answered.1, { world with lightning := answered.2 }.logCall call answered.1)

def putRecord (world : World Adapter Lightning) (record : SettlementRecord) :
    World Adapter Lightning :=
  { world with store := world.store.put record }

/-- The answers to a node's calls. -/
def respond : (call : NodeCall) → World Adapter Lightning →
    NodeAnswer call × World Adapter Lightning
  | .get id, world => (world.store.get id, world)
  | .put record, world => ((), world.putRecord record)
  | .listPending, world => (world.store.listPending, world)
  | .reserve amount, world =>
      world.withAdapter (.reserve amount) (FiatAdapter.reserve amount world.adapter)
  | .initiatePayout reservation beneficiary key, world =>
      world.withAdapter (.initiatePayout reservation beneficiary key)
        (FiatAdapter.initiatePayout reservation beneficiary key world.adapter)
  | .queryPayout key, world =>
      world.withAdapter (.queryPayout key) (FiatAdapter.queryPayout key world.adapter)
  | .createSettlementInvoice id amount, world =>
      world.withLightning (.createSettlementInvoice id amount)
        (LightningSettlement.createSettlementInvoice id amount world.lightning)
  | .acceptSettlementInvoice id amount invoice, world =>
      world.withLightning (.acceptSettlementInvoice id amount invoice)
        (LightningSettlement.acceptSettlementInvoice id amount invoice world.lightning)
  | .release id, world =>
      world.withLightning (.release id) (LightningSettlement.release id world.lightning)
  | .refund id, world =>
      world.withLightning (.refund id) (LightningSettlement.refund id world.lightning)

/-- Only `put` writes the store. -/
theorem respond_store {call : NodeCall} (external : call.isExternal = true)
    (world : World Adapter Lightning) : (respond call world).2.store = world.store := by
  cases call <;> first | rfl | cases external

/-- A call that leaves the node is logged. -/
theorem respond_log {call : NodeCall} (external : call.isExternal = true)
    (world : World Adapter Lightning) :
    (respond call world).2.log = .called call (respond call world).1
      (call.settlement.bind fun id => (world.store.get id).map (·.state)) :: world.log := by
  cases call <;> first | rfl | cases external

end World

/-! ## Runs of programs -/

/-- A program from its first call to its end. -/
def run {Value : Type} (program : NodeProgram Value) (world : World Adapter Lightning) :
    Except NodeError Value × World Adapter Lightning :=
  Program.exec World.respond program.run world

section Run

variable {First Second : Type} (world : World Adapter Lightning)

@[simp] theorem run_pure (value : First) :
    run (pure value : NodeProgram First) world = (.ok value, world) := rfl

@[simp] theorem run_throw (error : NodeError) :
    run (throw error : NodeProgram First) world = (.error error, world) := rfl

/-- What follows a program, when it did not fail. -/
def after {First Second : Type} (next : First → NodeProgram Second) :
    Except NodeError First × World Adapter Lightning →
      Except NodeError Second × World Adapter Lightning
  | (.ok value, later) => run (next value) later
  | (.error error, later) => (.error error, later)

@[simp] theorem after_ok (next : First → NodeProgram Second) (value : First) :
    after next (.ok value, world) = run (next value) world := rfl

@[simp] theorem after_error (next : First → NodeProgram Second) (error : NodeError) :
    after next (.error error, world) = (.error error, world) := rfl

theorem run_bind (program : NodeProgram First) (next : First → NodeProgram Second) :
    run (program >>= next) world = after next (run program world) := by
  refine (Program.exec_bind World.respond program.run _ world).trans ?_
  cases result : run program world with
  | mk answer later =>
      have ran : Program.exec World.respond program.run world = (answer, later) := result
      rw [ran]
      cases answer <;> rfl

theorem run_map (program : NodeProgram First) (map : First → Second) :
    run (map <$> program) world = after (fun value => pure (map value)) (run program world) :=
  run_bind world program fun value => pure (map value)

@[simp] theorem run_get (id : SettlementId) :
    run (Ask.get id) world = (.ok (world.store.get id), world) := rfl

@[simp] theorem run_listPending :
    run Ask.listPending world = (.ok world.store.listPending, world) := rfl

@[simp] theorem run_reserve (amount : FiatAmount) :
    run (Ask.reserve amount) world = (.ok (World.respond (.reserve amount) world).1,
      (World.respond (.reserve amount) world).2) := rfl

@[simp] theorem run_initiatePayout (reservation : ReservationId) (beneficiary key : String) :
    run (Ask.initiatePayout reservation beneficiary key) world =
      (.ok (World.respond (.initiatePayout reservation beneficiary key) world).1,
        (World.respond (.initiatePayout reservation beneficiary key) world).2) := rfl

@[simp] theorem run_queryPayout (key : String) :
    run (Ask.queryPayout key) world = (.ok (World.respond (.queryPayout key) world).1,
      (World.respond (.queryPayout key) world).2) := rfl

@[simp] theorem run_createSettlementInvoice (id : SettlementId) (amount : Millisatoshis) :
    run (Ask.createSettlementInvoice id amount) world =
      (.ok (World.respond (.createSettlementInvoice id amount) world).1,
        (World.respond (.createSettlementInvoice id amount) world).2) := rfl

@[simp] theorem run_acceptSettlementInvoice (id : SettlementId) (amount : Millisatoshis)
    (invoice : Bolt11Invoice) :
    run (Ask.acceptSettlementInvoice id amount invoice) world =
      (.ok (World.respond (.acceptSettlementInvoice id amount invoice) world).1,
        (World.respond (.acceptSettlementInvoice id amount invoice) world).2) := rfl

@[simp] theorem run_release (id : SettlementId) :
    run (Ask.release id) world = (.ok (World.respond (.release id) world).1,
      (World.respond (.release id) world).2) := rfl

@[simp] theorem run_refund (id : SettlementId) :
    run (Ask.refund id) world = (.ok (World.respond (.refund id) world).1,
      (World.respond (.refund id) world).2) := rfl

@[simp] theorem run_put (record : SettlementRecord) :
    run (Ask.put record) world = (.ok (), world.putRecord record) := rfl

@[simp] theorem run_orFail_ok {Error : Type} (wrap : Error → NodeError) (value : First) :
    run (orFail wrap (.ok value)) world = (.ok value, world) := rfl

@[simp] theorem run_orFail_error {Error : Type} (wrap : Error → NodeError) (error : Error) :
    run (orFail wrap (.error error : Except Error First)) world = (.error (wrap error), world) :=
  rfl

theorem run_fetch_none {id : SettlementId} (missing : world.store.get id = none) :
    run (fetch id) world = (.error (.unknownSettlement id), world) := by
  simp only [fetch, run_bind, run_get, after_ok, missing, run_throw]

theorem run_fetch_some {id : SettlementId} {record : SettlementRecord}
    (found : world.store.get id = some record) : run (fetch id) world = (.ok record, world) := by
  simp only [fetch, run_bind, run_get, after_ok, found, run_pure]

end Run

end Worlds

end Safrod.Legacy

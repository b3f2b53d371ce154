import Safrod.Storage.Model

/-!
# Events and their deliveries

`emit` writes an event and one pending delivery for each enabled endpoint of the
project, in the transaction of the state change it reports. `claimNodeEvent`
records a node event under its dedupe key, once.
-/

set_option autoImplicit false

namespace Safrod

/-! ## `emit` -/

namespace Db

/-- `from webhook_endpoints where project_id = $2 and enabled`. -/
def enabledEndpoints (db : Db) (projectId : String) : List WebhookEndpoint :=
  db.webhookEndpoints.filter fun endpoint => endpoint.projectId = projectId ∧ endpoint.enabled

/-- The event `emit` inserts. -/
def newEvent (db : Db) (now : DateTime) (projectId kind resourceId : String) (data : Value)
    (simulated : Bool) : EventRecord where
  seq := db.nextSeq
  id := db.draws.eventId db.nextSeq
  projectId := projectId
  kind := kind
  resourceId := resourceId
  data := data
  simulated := simulated
  createdAt := now

/-- The delivery `emit` inserts for an endpoint. -/
def newDelivery (now : DateTime) (draws : Draws) (seq : ℕ) (endpoint : WebhookEndpoint) :
    DeliveryRecord where
  id := draws.deliveryId seq endpoint.id
  eventSeq := seq
  endpointId := endpoint.id
  status := .pending
  attempts := 0
  nextAttemptAt := now
  lastStatus := none
  lastError := none
  deliveredAt := none
  createdAt := now

def emit (now : DateTime) (projectId kind resourceId : String) (data : Value) (simulated : Bool)
    (tx : Db) : Db :=
  { tx with
    events := tx.events ++ [tx.newEvent now projectId kind resourceId data simulated]
    nextSeq := tx.nextSeq + 1
    webhookDeliveries := tx.webhookDeliveries ++
      (tx.enabledEndpoints projectId).map (newDelivery now tx.draws tx.nextSeq) }

section Emit

variable (now : DateTime) (projectId kind resourceId : String) (data : Value) (simulated : Bool)
  (tx : Db)

@[simp] theorem emit_events : (emit now projectId kind resourceId data simulated tx).events =
    tx.events ++ [tx.newEvent now projectId kind resourceId data simulated] := rfl

@[simp] theorem emit_nextSeq :
    (emit now projectId kind resourceId data simulated tx).nextSeq = tx.nextSeq + 1 := rfl

@[simp] theorem emit_webhookDeliveries :
    (emit now projectId kind resourceId data simulated tx).webhookDeliveries =
      tx.webhookDeliveries ++
        (tx.enabledEndpoints projectId).map (newDelivery now tx.draws tx.nextSeq) := rfl

@[simp] theorem emit_invoices :
    (emit now projectId kind resourceId data simulated tx).invoices = tx.invoices := rfl

@[simp] theorem emit_outgoingPayments :
    (emit now projectId kind resourceId data simulated tx).outgoingPayments =
      tx.outgoingPayments := rfl

@[simp] theorem emit_webhookEndpoints :
    (emit now projectId kind resourceId data simulated tx).webhookEndpoints =
      tx.webhookEndpoints := rfl

@[simp] theorem emit_onchainAddresses :
    (emit now projectId kind resourceId data simulated tx).onchainAddresses =
      tx.onchainAddresses := rfl

@[simp] theorem emit_onchainTransactions :
    (emit now projectId kind resourceId data simulated tx).onchainTransactions =
      tx.onchainTransactions := rfl

@[simp] theorem emit_nodeEvents :
    (emit now projectId kind resourceId data simulated tx).nodeEvents = tx.nodeEvents := rfl

@[simp] theorem emit_sandboxQuotes :
    (emit now projectId kind resourceId data simulated tx).sandboxQuotes = tx.sandboxQuotes := rfl

@[simp] theorem emit_sandboxPayouts :
    (emit now projectId kind resourceId data simulated tx).sandboxPayouts =
      tx.sandboxPayouts := rfl

@[simp] theorem emit_sandboxBalances :
    (emit now projectId kind resourceId data simulated tx).sandboxBalances =
      tx.sandboxBalances := rfl

end Emit

/-! ## Drawn identifiers -/

/-- The same tables, with other identifiers to come. -/
def withDraws (draws : Draws) (db : Db) : Db := { db with draws := draws }

/-- The unique columns `events.id` and `webhook_deliveries.id` take what is drawn for an event
of the project. -/
def TakesDraws (db : Db) (projectId : String) : Prop :=
  (∀ event ∈ db.events, event.id ≠ db.draws.eventId db.nextSeq) ∧
    ((db.enabledEndpoints projectId).map fun endpoint =>
      db.draws.deliveryId db.nextSeq endpoint.id).Nodup ∧
    ∀ endpoint ∈ db.enabledEndpoints projectId, ∀ row ∈ db.webhookDeliveries,
      row.id ≠ db.draws.deliveryId db.nextSeq endpoint.id

instance (db : Db) (projectId : String) : Decidable (db.TakesDraws projectId) :=
  inferInstanceAs (Decidable (_ ∧ _ ∧ _))

/-! ## `claim_node_event` -/

/-- A node event was recorded under the key. -/
def Claimed (db : Db) (dedupeKey : String) : Prop :=
  ∃ event ∈ db.nodeEvents, event.dedupeKey = dedupeKey

instance (db : Db) (dedupeKey : String) : Decidable (db.Claimed dedupeKey) :=
  inferInstanceAs (Decidable (∃ event ∈ db.nodeEvents, event.dedupeKey = dedupeKey))

/-- The table after an insert under the key. -/
def withNodeEvent (now : DateTime) (dedupeKey kind : String) (payload : Value) (tx : Db) : Db :=
  { tx with nodeEvents := tx.nodeEvents ++ [⟨dedupeKey, kind, payload, now⟩] }

/-- Records a node event under its dedupe key. `false` if it was already
applied, in which case the caller must not apply it again. -/
def claimNodeEvent (now : DateTime) (dedupeKey kind : String) (payload : Value) (tx : Db) :
    Bool × Db :=
  if tx.Claimed dedupeKey then (false, tx) else (true, tx.withNodeEvent now dedupeKey kind payload)

theorem claimNodeEvent_of_claimed {dedupeKey : String} {tx : Db} (claimed : tx.Claimed dedupeKey)
    (now : DateTime) (kind : String) (payload : Value) :
    claimNodeEvent now dedupeKey kind payload tx = (false, tx) :=
  if_pos claimed

theorem claimNodeEvent_of_not_claimed {dedupeKey : String} {tx : Db}
    (unclaimed : ¬ tx.Claimed dedupeKey) (now : DateTime) (kind : String) (payload : Value) :
    claimNodeEvent now dedupeKey kind payload tx =
      (true, tx.withNodeEvent now dedupeKey kind payload) :=
  if_neg unclaimed

@[simp] theorem claimed_withNodeEvent {now : DateTime} {dedupeKey kind other : String}
    {payload : Value} {tx : Db} :
    (tx.withNodeEvent now dedupeKey kind payload).Claimed other ↔
      tx.Claimed other ∨ dedupeKey = other := by
  simp only [Claimed, withNodeEvent, List.mem_append, List.mem_singleton]
  constructor
  · rintro ⟨event, member | rfl, same⟩
    · exact .inl ⟨event, member, same⟩
    · exact .inr same
  · rintro (⟨event, member, same⟩ | same)
    · exact ⟨event, .inl member, same⟩
    · exact ⟨_, .inr rfl, same⟩

end Db

end Safrod

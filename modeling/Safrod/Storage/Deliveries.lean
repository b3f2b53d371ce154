import Safrod.Library.Page
import Safrod.Storage.Webhooks

/-!
# Claims, outcomes and replays of deliveries

A claim takes deliveries that are due and pushes `next_attempt_at` forward. An
outcome is recorded under the delivery's identifier alone. A replay makes a delivery
of the project pending again, due at once.

Rows that a claim orders alike come in the order of the table. `locked` are the
deliveries that another transaction holds at the time; a claim skips them.
-/

set_option autoImplicit false

namespace Safrod

open Table

/-- A claimed delivery with its endpoint and its event. -/
structure DueDelivery where
  id : String
  attempts : ℕ
  url : String
  secret : String
  eventId : String
  eventType : String
  resourceId : String
  data : Value
  simulated : Bool
  eventCreatedAt : DateTime

inductive DeliveryOutcome where
  | delivered (status : ℤ)
  | retry (status : Option ℤ) (error : String) (nextAttemptAt : DateTime)
  | failed (status : Option ℤ) (error : String)

def i32Max : ℕ := 2 ^ 31 - 1

/-- `make_interval(secs => $2)`, in microseconds. -/
def makeInterval (secs : ℤ) : ℤ := secs * 1000000

namespace Db

/-! ## `claim_due_deliveries` -/

def Claimable (now : DateTime) (locked : List String) (db : Db) (row : DeliveryRecord) : Prop :=
  row.status = .pending ∧ row.nextAttemptAt ≤ now ∧
    (∃ endpoint ∈ db.webhookEndpoints, endpoint.id = row.endpointId ∧ endpoint.enabled = true) ∧
    row.id ∉ locked

instance (now : DateTime) (locked : List String) (db : Db) (row : DeliveryRecord) :
    Decidable (db.Claimable now locked row) :=
  inferInstanceAs (Decidable (_ ∧ _ ∧ (∃ endpoint ∈ db.webhookEndpoints,
    endpoint.id = row.endpointId ∧ endpoint.enabled = true) ∧ _))

def claimedIds (now : DateTime) (limit : ℕ) (locked : List String) (db : Db) : List String :=
  (pageBy (fun row : DeliveryRecord => row.nextAttemptAt) limit
    (db.webhookDeliveries.filter fun row => db.Claimable now locked row)).map
      fun row => row.id

def leasedRow (leaseEnd : DateTime) (row : DeliveryRecord) : DeliveryRecord :=
  { row with nextAttemptAt := leaseEnd }

/-- `update webhook_deliveries set next_attempt_at = … where id = any($1)`. -/
def withLeased (ids : List String) (leaseEnd : DateTime) (tx : Db) : Db :=
  { tx with
    webhookDeliveries := updateWhere (fun row => row.id ∈ ids) (leasedRow leaseEnd)
      tx.webhookDeliveries }

/-- The delivery with its endpoint and its event, where both are there. -/
def dueDelivery (db : Db) (row : DeliveryRecord) : Option DueDelivery := do
  let endpoint ← lookup (fun endpoint : WebhookEndpoint => endpoint.id) row.endpointId
    db.webhookEndpoints
  let event ← lookup (fun event : EventRecord => event.seq) row.eventSeq db.events
  some ⟨row.id, row.attempts, endpoint.url, endpoint.secret, event.id, event.kind,
    event.resourceId, event.data, event.simulated, event.createdAt⟩

/-- `where d.id = any($1) order by ev.seq`. -/
def dueDeliveries (ids : List String) (db : Db) : List DueDelivery :=
  ((db.webhookDeliveries.filter fun row => row.id ∈ ids).insertionSort
    fun first second => first.eventSeq ≤ second.eventSeq).filterMap db.dueDelivery

/-- Claims deliveries that are due and leases them by pushing `next_attempt_at`
forward. -/
def claimDueDeliveries (now : DateTime) (limit : ℕ) (leaseSecs : ℤ) (locked : List String) :
    Db → Except StorageError (List DueDelivery) × Db :=
  transaction fun tx =>
    let ids := tx.claimedIds now limit locked
    if ids = [] then .ok (.drop [])
    else
      let work := tx.withLeased ids (now + makeInterval leaseSecs)
      .ok (.commit (work.dueDeliveries ids) work)

/-! ## `record_delivery` -/

def recordedRow (now : DateTime) (outcome : DeliveryOutcome) (row : DeliveryRecord) :
    DeliveryRecord :=
  match outcome with
  | .delivered status =>
      { row with
        status := .delivered
        attempts := row.attempts + 1
        lastStatus := some status
        lastError := none
        deliveredAt := some now }
  | .retry status error nextAttemptAt =>
      { row with
        attempts := row.attempts + 1
        lastStatus := status
        lastError := some error
        nextAttemptAt := nextAttemptAt }
  | .failed status error =>
      { row with
        status := .failed
        attempts := row.attempts + 1
        lastStatus := status
        lastError := some error }

/-- `update webhook_deliveries set … where id = $1`. -/
def withRecorded (now : DateTime) (id : String) (outcome : DeliveryOutcome) (tx : Db) : Db :=
  { tx with
    webhookDeliveries := updateWhere (fun row => row.id = id) (recordedRow now outcome)
      tx.webhookDeliveries }

/-- The number of attempts is an `integer`, and one more must fit it. -/
def recordDelivery (now : DateTime) (id : String) (outcome : DeliveryOutcome) :
    Db → Except StorageError Unit × Db :=
  transaction fun tx =>
    if ∃ row ∈ tx.webhookDeliveries, row.id = id ∧ i32Max < row.attempts + 1 then
      .error (.database "integer out of range")
    else .ok (.commit () (tx.withRecorded now id outcome))

/-! ## `replay_delivery` -/

def requeuedRow (now : DateTime) (row : DeliveryRecord) : DeliveryRecord :=
  { row with status := .pending, nextAttemptAt := now }

/-- The delivery goes to an endpoint of the project. -/
def DeliversTo (projectId : String) (db : Db) (row : DeliveryRecord) : Prop :=
  ∃ endpoint ∈ db.webhookEndpoints, endpoint.id = row.endpointId ∧ endpoint.projectId = projectId

instance (projectId : String) (db : Db) (row : DeliveryRecord) :
    Decidable (db.DeliversTo projectId row) :=
  inferInstanceAs (Decidable (∃ endpoint ∈ db.webhookEndpoints,
    endpoint.id = row.endpointId ∧ endpoint.projectId = projectId))

def withRequeued (now : DateTime) (projectId id : String) (tx : Db) : Db :=
  { tx with
    webhookDeliveries := updateWhere (fun row => row.id = id ∧ tx.DeliversTo projectId row)
      (requeuedRow now) tx.webhookDeliveries }

/-- Re-queues a delivery. -/
def replayDelivery (now : DateTime) (projectId id : String) :
    Db → Except StorageError Unit × Db :=
  transaction fun tx =>
    if ∃ row ∈ tx.webhookDeliveries, row.id = id ∧ tx.DeliversTo projectId row then
      .ok (.commit () (tx.withRequeued now projectId id))
    else .error .notFound

/-! ## What the operations write -/

theorem dueDelivery_eq_some {db : Db} {row : DeliveryRecord} {delivery : DueDelivery}
    (joined : db.dueDelivery row = some delivery) :
    delivery.id = row.id ∧ delivery.attempts = row.attempts := by
  obtain ⟨endpoint, -, joined⟩ := Option.bind_eq_some_iff.mp joined
  obtain ⟨event, -, joined⟩ := Option.bind_eq_some_iff.mp joined
  cases joined
  exact ⟨rfl, rfl⟩

/-- A claim takes rows that are pending and due. -/
theorem claimable_of_mem_claimedIds {now : DateTime} {limit : ℕ} {locked : List String} {db : Db}
    {id : String} (member : id ∈ db.claimedIds now limit locked) :
    ∃ row ∈ db.webhookDeliveries, row.id = id ∧ db.Claimable now locked row := by
  obtain ⟨row, paged, same⟩ := List.mem_map.mp member
  obtain ⟨there, claimable⟩ := List.mem_filter.mp (mem_of_mem_pageBy _ paged)
  exact ⟨row, there, same, of_decide_eq_true claimable⟩

/-- A claim leases the rows it takes, and returns rows it took with the number of
attempts they have. -/
theorem claimDueDeliveries_spec (now : DateTime) (limit : ℕ) (leaseSecs : ℤ)
    (locked : List String) (db : Db) : ∃ due,
      claimDueDeliveries now limit leaseSecs locked db = (.ok due,
        db.withLeased (db.claimedIds now limit locked) (now + makeInterval leaseSecs)) ∧
      (∀ delivery ∈ due, ∃ row ∈ db.webhookDeliveries, row.id = delivery.id ∧
        row.attempts = delivery.attempts ∧ row.id ∈ db.claimedIds now limit locked) ∧
      (KeyUnique (fun row : DeliveryRecord => row.id) db.webhookDeliveries →
        KeyUnique (fun delivery : DueDelivery => delivery.id) due) := by
  by_cases nothing : db.claimedIds now limit locked = []
  · refine ⟨[], ?_, ?_, fun _ => List.nodup_nil⟩
    · have same : db.withLeased [] (now + makeInterval leaseSecs) = db := by
        rw [withLeased, updateWhere_of_none]
        rintro _ _ ⟨⟩
      simp only [claimDueDeliveries, transaction, if_pos nothing]
      rw [nothing, same]
    · rintro _ ⟨⟩
  · have leased : ∀ row, (leasedRow (now + makeInterval leaseSecs) row).id = row.id := fun _ => rfl
    refine ⟨(db.withLeased (db.claimedIds now limit locked)
      (now + makeInterval leaseSecs)).dueDeliveries (db.claimedIds now limit locked), ?_, ?_, ?_⟩
    · simp only [claimDueDeliveries, transaction, if_neg nothing]
    · intro delivery member
      obtain ⟨row, sorted, joined⟩ := List.mem_filterMap.mp member
      obtain ⟨there, chosen⟩ := List.mem_filter.mp ((List.mem_insertionSort _).mp sorted)
      obtain ⟨id, attempts⟩ := dueDelivery_eq_some joined
      obtain ⟨old, oldMember, same⟩ := mem_updateWhere.mp there
      have kept : old.id = row.id ∧ old.attempts = row.attempts := by
        rw [← same]
        split
        · exact ⟨rfl, rfl⟩
        · exact ⟨rfl, rfl⟩
      refine ⟨old, oldMember, kept.1.trans id.symm, kept.2.trans attempts.symm, ?_⟩
      rw [kept.1]
      exact of_decide_eq_true chosen
    · intro unique
      refine KeyUnique.filterMap
        (fun (row : DeliveryRecord) _ joined => (dueDelivery_eq_some joined).1) ?_
      have sorted := List.perm_insertionSort
        (fun first second : DeliveryRecord => first.eventSeq ≤ second.eventSeq)
      exact ((sorted _).map _).nodup_iff.mpr ((unique.update leased).filter _)

/-- Recording an outcome rewrites the rows with the identifier, or fails. -/
theorem recordDelivery_cases (now : DateTime) (id : String) (outcome : DeliveryOutcome) (db : Db) :
    (∃ error, recordDelivery now id outcome db = (.error error, db)) ∨
    recordDelivery now id outcome db = (.ok (), db.withRecorded now id outcome) := by
  by_cases full : ∃ row ∈ db.webhookDeliveries, row.id = id ∧ i32Max < row.attempts + 1
  · refine .inl ⟨.database "integer out of range", ?_⟩
    simp only [recordDelivery, transaction, if_pos full]
  · refine .inr ?_
    simp only [recordDelivery, transaction, if_neg full]

/-- A replay rewrites the delivery when it goes to an endpoint of the project, and
fails otherwise. -/
theorem replayDelivery_cases (now : DateTime) (projectId id : String) (db : Db) :
    replayDelivery now projectId id db = (.error .notFound, db) ∨
    replayDelivery now projectId id db = (.ok (), db.withRequeued now projectId id) := by
  by_cases there : ∃ row ∈ db.webhookDeliveries, row.id = id ∧ db.DeliversTo projectId row
  · refine .inr ?_
    simp only [replayDelivery, transaction, if_pos there]
  · refine .inl ?_
    simp only [replayDelivery, transaction, if_neg there]

end Db

end Safrod

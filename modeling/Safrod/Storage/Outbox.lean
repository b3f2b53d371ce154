import Safrod.Storage.PaymentHistory

/-!
# The transactional outbox

What is written with a state change. `eventCount` counts the events of one kind
about one resource, and `deliveryCount` the deliveries of one event to one
endpoint.

* `InvoiceOutbox`, `PaymentOutbox` and `PayoutOutbox` tie the counts to the
  statuses of the rows; a call keeps each of them.
* `Emissions` is what a call adds to the outbox: one event after another, each
  with a delivery for every endpoint that is enabled then (`emissions_written`).
* `outbox` collects the four parts for every run of storage calls.
-/

set_option autoImplicit false

namespace Safrod

open Table

namespace Db

/-! ## Counting -/

def eventCount (kind resourceId : String) (db : Db) : ℕ :=
  db.events.countP fun event => event.kind = kind ∧ event.resourceId = resourceId

theorem eventCount_emit (kind resourceId : String) (now : DateTime)
    (projectId emittedKind emittedResource : String) (data : Value) (simulated : Bool) (tx : Db) :
    eventCount kind resourceId
        (tx.emit now projectId emittedKind emittedResource data simulated) =
      eventCount kind resourceId tx +
        if emittedKind = kind ∧ emittedResource = resourceId then 1 else 0 := by
  simp only [eventCount, emit_events, List.countP_append, List.countP_singleton, newEvent,
    decide_eq_true_eq]

/-- A count reads the events only. -/
theorem eventCount_congr {kind resourceId : String} {first second : Db}
    (same : first.events = second.events) :
    eventCount kind resourceId first = eventCount kind resourceId second := by
  rw [eventCount, same, eventCount]

theorem eventCount_afterPaid (kind resourceId : String) (now : DateTime) (received : ℤ)
    (row : InvoiceRow) (tx : Db) :
    eventCount kind resourceId (tx.afterPaid now received row) = eventCount kind resourceId tx +
      if "invoice.paid" = kind ∧ row.id = resourceId then 1 else 0 :=
  eventCount_emit _ _ _ _ _ _ _ _ _

theorem eventCount_afterMove (kind resourceId : String) (now : DateTime)
    (dedupeKey : Option String) (next : PaymentStatus) (fee : Option ℤ) (resolution : Resolution)
    (row : PaymentRow) (tx : Db) :
    eventCount kind resourceId (tx.afterMove now dedupeKey next fee resolution row) =
      eventCount kind resourceId tx +
        if notifies next = true ∧ "payment." ++ next.asStr = kind ∧ row.id = resourceId
        then 1 else 0 := by
  have claim : eventCount kind resourceId (claimOutcome now dedupeKey row.id next tx).2 =
      eventCount kind resourceId tx := by
    rw [claimOutcome_snd]
    rfl
  simp only [afterMove, emitMoved]
  cases written : notifies next with
  | false =>
      simp only [Bool.false_eq_true, if_false, false_and, Nat.add_zero]
      exact claim
  | true =>
      simp only [if_true, true_and]
      rw [eventCount_emit, ← claim]
      rfl

theorem eventCount_emitPayout (kind resourceId : String) (now : DateTime) (payout : PayoutRecord)
    (tx : Db) :
    eventCount kind resourceId (tx.emitPayout now payout) = eventCount kind resourceId tx +
      if "sandbox.payout." ++ payout.status.asStr = kind ∧ payout.id = resourceId
      then 1 else 0 :=
  eventCount_emit _ _ _ _ _ _ _ _ _

/-- The expiry task writes one event for each row it moves. -/
theorem eventCount_foldl_emitExpired (kind resourceId : String) (now : DateTime)
    (rows : List InvoiceRow) (tx : Db) :
    eventCount kind resourceId (rows.foldl (emitExpired now) tx) =
      eventCount kind resourceId tx +
        rows.countP fun row => "invoice.expired" = kind ∧ row.id = resourceId := by
  induction rows generalizing tx with
  | nil => rfl
  | cons row rest ih =>
      rw [List.foldl_cons, ih, emitExpired, eventCount_emit, List.countP_cons]
      simp only [decide_eq_true_eq]
      omega

/-! ## What a call adds to the outbox -/

/-- The tables an emission reads and writes. -/
structure OutboxTables where
  events : List EventRecord
  nextSeq : ℕ
  endpoints : List WebhookEndpoint
  deliveries : List DeliveryRecord

def outboxTables (db : Db) : OutboxTables where
  events := db.events
  nextSeq := db.nextSeq
  endpoints := db.webhookEndpoints
  deliveries := db.webhookDeliveries

/-- One event is written with its deliveries. -/
inductive Emission : OutboxTables → OutboxTables → Prop where
  | emit (now : DateTime) (projectId kind resourceId : String) (data : Value) (simulated : Bool)
      (db : Db) :
      Emission db.outboxTables
        (db.emit now projectId kind resourceId data simulated).outboxTables

/-- A number of events is written, one after another. -/
def Emissions : OutboxTables → OutboxTables → Prop := Relation.ReflTransGen Emission

theorem emissions_foldl_emitExpired (now : DateTime) (rows : List InvoiceRow) (db : Db) :
    Emissions db.outboxTables (rows.foldl (emitExpired now) db).outboxTables := by
  induction rows generalizing db with
  | nil => exact Relation.ReflTransGen.refl
  | cons row rest ih =>
      have first : Emission db.outboxTables (emitExpired now db row).outboxTables :=
        .emit now row.projectId _ row.id _ _ db
      exact Relation.ReflTransGen.head first (ih _)

/-- An emission after writes to other tables. -/
theorem emissions_emit {db work : Db} (same : work.outboxTables = db.outboxTables)
    (now : DateTime) (projectId kind resourceId : String) (data : Value) (simulated : Bool) :
    Emissions db.outboxTables
      (work.emit now projectId kind resourceId data simulated).outboxTables := by
  rw [← same]
  exact Relation.ReflTransGen.single (.emit now projectId kind resourceId data simulated work)

theorem emissions_of_same {db work : Db} (same : work.outboxTables = db.outboxTables) :
    Emissions db.outboxTables work.outboxTables := by
  rw [same]
  exact Relation.ReflTransGen.refl

theorem outboxTables_claimOutcome (now : DateTime) (dedupeKey : Option String)
    (paymentId : String) (next : PaymentStatus) (db : Db) :
    (claimOutcome now dedupeKey paymentId next db).2.outboxTables = db.outboxTables := by
  rw [claimOutcome_snd]
  rfl

/-- A call writes a number of events, or it writes the endpoints. -/
theorem Performed.emissions {db after : Db} (performed : Performed db after) :
    Emissions db.outboxTables after.outboxTables ∨
    (after.outboxTables = { db.outboxTables with endpoints := after.webhookEndpoints } ∧
      (KeyUnique (fun endpoint : WebhookEndpoint => endpoint.id) db.webhookEndpoints →
        KeyUnique (fun endpoint : WebhookEndpoint => endpoint.id) after.webhookEndpoints)) := by
  cases performed with
  | unchanged => exact .inr ⟨rfl, fun unique => unique⟩
  | invoiceInserted now new fresh => exact .inr ⟨rfl, fun unique => unique⟩
  | invoicePaid now dedupeKey kind payload received row member stillOpen =>
      exact .inl (emissions_emit rfl now _ _ _ _ _)
  | invoicesExpired now =>
      exact .inl (emissions_foldl_emitExpired now _
        { db with invoices := updateWhere (Overdue now) (expiredRow now) db.invoices })
  | paymentBegun now new keyFree idFree => exact .inr ⟨rfl, fun unique => unique⟩
  | paymentMoved now dedupeKey next fee resolution row found legal =>
      have claim := outboxTables_claimOutcome now dedupeKey row.id next db
      simp only [afterMove, emitMoved]
      cases notifies next with
      | true => exact .inl (emissions_emit claim now _ _ _ _ _)
      | false => exact .inl (emissions_of_same claim)
  | quoteInserted row idFree => exact .inr ⟨rfl, fun unique => unique⟩
  | payoutReserved now request quote balances fresh =>
      exact .inl (emissions_emit rfl now _ _ _ _ _)
  | payoutAdvanced now current next balances found legal =>
      exact .inl (emissions_emit rfl now _ _ _ _ _)
  | payoutAttached now payoutId paymentId => exact .inr ⟨rfl, fun unique => unique⟩
  | balanceCredited balances => exact .inr ⟨rfl, fun unique => unique⟩
  | endpointCreated endpoint idFree =>
      exact .inr ⟨rfl, fun unique => unique.append_singleton idFree⟩
  | endpointDisabled projectId id =>
      exact .inr ⟨rfl, fun unique => unique.update fun endpoint => rfl⟩
  | endpointTested now projectId id data => exact .inl (emissions_emit rfl now _ _ _ _ _)

/-! ## Deliveries -/

/-- The endpoint was enabled for the project. -/
def Enabled (endpoints : List WebhookEndpoint) (projectId endpointId : String) : Prop :=
  ∃ endpoint, lookup (fun endpoint : WebhookEndpoint => endpoint.id) endpointId endpoints =
    some endpoint ∧ endpoint.projectId = projectId ∧ endpoint.enabled = true

instance (endpoints : List WebhookEndpoint) (projectId endpointId : String) :
    Decidable (Enabled endpoints projectId endpointId) :=
  match found : lookup (fun endpoint : WebhookEndpoint => endpoint.id) endpointId endpoints with
  | none => isFalse fun ⟨endpoint, here, _⟩ => by
      rw [found] at here
      cases here
  | some endpoint =>
      decidable_of_iff (endpoint.projectId = projectId ∧ endpoint.enabled = true) (by
        simp only [Enabled, found, Option.some.injEq, exists_eq_left'])

/-- The deliveries of one event to one endpoint. -/
def deliveriesTo (seq : ℕ) (endpointId : String) (deliveries : List DeliveryRecord) : ℕ :=
  deliveries.countP fun delivery => delivery.eventSeq = seq ∧ delivery.endpointId = endpointId

def deliveryCount (seq : ℕ) (endpointId : String) (db : Db) : ℕ :=
  deliveriesTo seq endpointId db.webhookDeliveries

/-- Events and deliveries are numbered below the sequence, and endpoints have
unique identifiers. -/
structure Numbered (tables : OutboxTables) : Prop where
  events : ∀ event ∈ tables.events, event.seq < tables.nextSeq
  deliveries : ∀ delivery ∈ tables.deliveries, delivery.eventSeq < tables.nextSeq
  endpoints : KeyUnique (fun endpoint : WebhookEndpoint => endpoint.id) tables.endpoints

/-- What emissions leave alone and what they add. -/
structure Written (first second : OutboxTables) : Prop where
  endpoints : second.endpoints = first.endpoints
  next : first.nextSeq ≤ second.nextSeq
  old : ∀ seq < first.nextSeq, ∀ endpointId,
    deliveriesTo seq endpointId second.deliveries = deliveriesTo seq endpointId first.deliveries
  new : ∃ events, second.events = first.events ++ events ∧ ∀ event ∈ events,
    first.nextSeq ≤ event.seq ∧ ∀ endpointId,
      deliveriesTo event.seq endpointId second.deliveries =
        if Enabled first.endpoints event.projectId endpointId then 1 else 0

theorem deliveriesTo_append (seq : ℕ) (endpointId : String) (first second : List DeliveryRecord) :
    deliveriesTo seq endpointId (first ++ second) =
      deliveriesTo seq endpointId first + deliveriesTo seq endpointId second :=
  List.countP_append

/-- No delivery has a number that was not given out. -/
theorem deliveriesTo_eq_zero {seq : ℕ} {endpointId : String} {deliveries : List DeliveryRecord}
    (others : ∀ delivery ∈ deliveries, delivery.eventSeq ≠ seq) :
    deliveriesTo seq endpointId deliveries = 0 := by
  refine List.countP_eq_zero.mpr ?_
  intro delivery member here
  simp only [decide_eq_true_eq] at here
  exact others delivery member here.1

/-- The deliveries of a new event are those of the enabled endpoints. -/
theorem deliveriesTo_newDelivery (now : DateTime) (draws : Draws) (seq : ℕ)
    (projectId endpointId : String) {db : Db}
    (unique : KeyUnique (fun endpoint : WebhookEndpoint => endpoint.id) db.webhookEndpoints) :
    deliveriesTo seq endpointId ((db.enabledEndpoints projectId).map (newDelivery now draws seq)) =
      if Enabled db.webhookEndpoints projectId endpointId then 1 else 0 := by
  have chosen : deliveriesTo seq endpointId
        ((db.enabledEndpoints projectId).map (newDelivery now draws seq)) =
      db.webhookEndpoints.countP fun endpoint =>
        endpoint.id = endpointId ∧ endpoint.projectId = projectId ∧ endpoint.enabled = true := by
    rw [deliveriesTo, enabledEndpoints, List.countP_map, List.countP_filter]
    refine List.countP_congr fun endpoint _ => ?_
    simp only [Function.comp_apply, newDelivery, Bool.and_eq_true, decide_eq_true_eq, true_and]
  rw [chosen, unique.countP_eq endpointId]
  exact if_congr Iff.rfl rfl rfl

theorem Emission.written {first second : OutboxTables} (emission : Emission first second)
    (numbered : Numbered first) : Written first second ∧ Numbered second := by
  cases emission with
  | emit now projectId kind resourceId data simulated db =>
      have fresh : ∀ delivery ∈ db.webhookDeliveries, delivery.eventSeq ≠ db.nextSeq := by
        intro delivery member
        exact Nat.ne_of_lt (numbered.deliveries delivery member)
      refine ⟨⟨rfl, Nat.le_succ _, ?_, ?_⟩, ⟨?_, ?_, numbered.endpoints⟩⟩
      · intro seq below endpointId
        have others : deliveriesTo seq endpointId
            ((db.enabledEndpoints projectId).map (newDelivery now db.draws db.nextSeq)) = 0 := by
          refine deliveriesTo_eq_zero ?_
          intro delivery member
          obtain ⟨endpoint, -, rfl⟩ := List.mem_map.mp member
          exact Nat.ne_of_gt below
        simp only [outboxTables, emit_webhookDeliveries, deliveriesTo_append, others, Nat.add_zero]
      · refine ⟨[db.newEvent now projectId kind resourceId data simulated], rfl, ?_⟩
        intro event member
        rw [List.mem_singleton.mp member]
        refine ⟨Nat.le_refl _, ?_⟩
        intro endpointId
        simp only [outboxTables, emit_webhookDeliveries, deliveriesTo_append, newEvent,
          deliveriesTo_eq_zero fresh, Nat.zero_add]
        exact deliveriesTo_newDelivery now db.draws db.nextSeq projectId endpointId
          numbered.endpoints
      · intro event member
        rcases List.mem_append.mp member with old | new
        · exact Nat.lt_succ_of_lt (numbered.events event old)
        · rw [List.mem_singleton.mp new]
          exact Nat.lt_succ_self _
      · intro delivery member
        rcases List.mem_append.mp member with old | new
        · exact Nat.lt_succ_of_lt (numbered.deliveries delivery old)
        · obtain ⟨endpoint, -, rfl⟩ := List.mem_map.mp new
          exact Nat.lt_succ_self _

theorem Written.trans {first second third : OutboxTables} (before : Written first second)
    (after : Written second third) (numbered : Numbered second) : Written first third := by
  obtain ⟨earlier, earlierAdded, earlierDelivered⟩ := before.new
  obtain ⟨later, laterAdded, laterDelivered⟩ := after.new
  refine ⟨after.endpoints.trans before.endpoints, before.next.trans after.next, ?_, ?_⟩
  · intro seq below endpointId
    rw [after.old seq (Nat.lt_of_lt_of_le below before.next), before.old seq below]
  · refine ⟨earlier ++ later, ?_, ?_⟩
    · rw [laterAdded, earlierAdded, List.append_assoc]
    · intro event member
      rcases List.mem_append.mp member with here | there
      · obtain ⟨bound, delivered⟩ := earlierDelivered event here
        refine ⟨bound, ?_⟩
        intro endpointId
        have given : event.seq < second.nextSeq := by
          refine numbered.events event ?_
          rw [earlierAdded]
          exact List.mem_append_right _ here
        rw [after.old event.seq given, delivered]
      · obtain ⟨bound, delivered⟩ := laterDelivered event there
        refine ⟨before.next.trans bound, ?_⟩
        intro endpointId
        rw [delivered, before.endpoints]

theorem emissions_written {first second : OutboxTables} (emissions : Emissions first second)
    (numbered : Numbered first) : Written first second ∧ Numbered second := by
  induction emissions with
  | refl =>
      refine ⟨⟨rfl, Nat.le_refl _, fun _ _ _ => rfl, ⟨[], ?_, ?_⟩⟩, numbered⟩
      · rw [List.append_nil]
      · rintro _ ⟨⟩
  | tail _ emission ih =>
      obtain ⟨written, middle⟩ := ih
      obtain ⟨last, later⟩ := emission.written middle
      exact ⟨written.trans last middle, later⟩

/-- A call keeps the numbering, adds its events with a delivery for each endpoint
enabled before it, and leaves the deliveries of the earlier events alone. -/
theorem Performed.written {db after : Db} (performed : Performed db after)
    (numbered : Numbered db.outboxTables) :
    Numbered after.outboxTables ∧
      (∀ seq < db.nextSeq, ∀ endpointId,
        deliveryCount seq endpointId after = deliveryCount seq endpointId db) ∧
      ∃ events, after.events = db.events ++ events ∧ ∀ event ∈ events, db.nextSeq ≤ event.seq ∧
        ∀ endpointId, deliveryCount event.seq endpointId after =
          if Enabled db.webhookEndpoints event.projectId endpointId then 1 else 0 := by
  rcases performed.emissions with emissions | ⟨kept, unique⟩
  · obtain ⟨written, later⟩ := emissions_written emissions numbered
    exact ⟨later, written.old, written.new⟩
  · have events : after.events = db.events := congrArg OutboxTables.events kept
    have deliveries : after.webhookDeliveries = db.webhookDeliveries :=
      congrArg OutboxTables.deliveries kept
    refine ⟨?_, ?_, [], ?_, ?_⟩
    · rw [kept]
      exact ⟨numbered.events, numbered.deliveries, unique numbered.endpoints⟩
    · intro seq _ endpointId
      rw [deliveryCount, deliveries, deliveryCount]
    · rw [events, List.append_nil]
    · rintro _ ⟨⟩

theorem numbered_of_reachable {db : Db} (reached : storage.Reachable db) :
    Numbered db.outboxTables := by
  refine reached.invariant (fun db => Numbered db.outboxTables) ?_ ?_
  · rintro _ rfl
    refine ⟨?_, ?_, KeyUnique.nil⟩
    · rintro _ ⟨⟩
    · rintro _ ⟨⟩
  · intro db call after _ numbered step
    cases step
    exact ((perform_performed call db).written numbered).1

/-- Sequence numbers start at one, stay below the next one and never repeat. -/
structure Sequenced (nextSeq : ℕ) (rows : List EventRecord) : Prop where
  next : 0 < nextSeq
  bounds : ∀ event ∈ rows, 0 < event.seq ∧ event.seq < nextSeq
  unique : KeyUnique (fun event : EventRecord => event.seq) rows

theorem Sequenced.append {nextSeq : ℕ} {events : List EventRecord}
    (held : Sequenced nextSeq events) {event : EventRecord} (numbered : event.seq = nextSeq) :
    Sequenced (nextSeq + 1) (events ++ [event]) := by
  refine ⟨Nat.succ_pos _, ?_, ?_⟩
  · intro other member
    rcases List.mem_append.mp member with old | new
    · exact ⟨(held.bounds other old).1, Nat.lt_succ_of_lt (held.bounds other old).2⟩
    · rw [List.mem_singleton.mp new, numbered]
      exact ⟨held.next, Nat.lt_succ_self _⟩
  · refine held.unique.append_singleton ?_
    intro old member same
    have below := (held.bounds old member).2
    omega

theorem Performed.sequenced {db after : Db} (performed : Performed db after)
    (held : Sequenced db.nextSeq db.events) : Sequenced after.nextSeq after.events := by
  rcases performed.emissions with emissions | ⟨kept, -⟩
  · have keeps : ∀ first second : OutboxTables, Emission first second →
        Sequenced first.nextSeq first.events → Sequenced second.nextSeq second.events := by
      rintro _ _ ⟨now, projectId, kind, resourceId, data, simulated, work⟩ before
      exact before.append rfl
    exact Relation.ReflTransGen.rec (motive := fun tables _ =>
      Sequenced tables.nextSeq tables.events) held
      (fun _ emission before => keeps _ _ emission before) emissions
  · have events : after.events = db.events := congrArg OutboxTables.events kept
    have next : after.nextSeq = db.nextSeq := congrArg OutboxTables.nextSeq kept
    rw [events, next]
    exact held

theorem sequenced_of_reachable {db : Db} (reached : storage.Reachable db) :
    Sequenced db.nextSeq db.events := by
  refine reached.invariant (fun db => Sequenced db.nextSeq db.events) ?_ ?_
  · rintro _ rfl
    refine ⟨Nat.one_pos, ?_, KeyUnique.nil⟩
    rintro _ ⟨⟩
  · intro db call after _ held step
    cases step
    exact (perform_performed call db).sequenced held

/-- Every event of a run was written by one of its calls, with exactly one delivery
for each endpoint of its project that was enabled before that call. -/
theorem event_deliveries {calls : List Call} {db : Db} (ran : storage.run {} calls = some db) :
    ∀ event ∈ db.events, ∃ before call rest earlier, calls = before ++ call :: rest ∧
      storage.run {} before = some earlier ∧ event ∉ earlier.events ∧
      event ∈ (earlier.perform call).events ∧ ∀ endpointId,
        deliveryCount event.seq endpointId db =
          if Enabled earlier.webhookEndpoints event.projectId endpointId then 1 else 0 := by
  refine Machine.run_induction (fun calls db => ∀ event ∈ db.events, ∃ before call rest earlier,
    calls = before ++ call :: rest ∧ storage.run {} before = some earlier ∧
      event ∉ earlier.events ∧ event ∈ (earlier.perform call).events ∧ ∀ endpointId,
        deliveryCount event.seq endpointId db =
          if Enabled earlier.webhookEndpoints event.projectId endpointId then 1 else 0) ?_ ?_ ran
  · rintro _ ⟨⟩
  · intro done middle call next doneRan held step event member
    cases step
    have numbered := numbered_of_reachable (Machine.reachable_of_run rfl doneRan)
    obtain ⟨-, old, events, added, delivered⟩ := (perform_performed call middle).written numbered
    rw [added] at member
    rcases List.mem_append.mp member with here | there
    · obtain ⟨before, writer, rest, earlier, split, earlierRan, absent, present, count⟩ :=
        held event here
      refine ⟨before, writer, rest ++ [call], earlier, ?_, earlierRan, absent, present, ?_⟩
      · rw [split, List.append_assoc, List.cons_append]
      · intro endpointId
        rw [old event.seq (numbered.events event here), count]
    · obtain ⟨bound, count⟩ := delivered event there
      refine ⟨done, call, [], middle, rfl, doneRan, ?_, ?_, count⟩
      · intro early
        exact Nat.not_le_of_lt (numbered.events event early) bound
      · rw [added]
        exact List.mem_append_right _ there

/-! ## Kinds of events -/

theorem paymentKind_ne (next : PaymentStatus) : "payment." ++ next.asStr ≠ "invoice.paid" ∧
    "payment." ++ next.asStr ≠ "invoice.expired" := by
  cases next <;> decide

theorem payoutKind_ne (status : PayoutStatus) :
    "sandbox.payout." ++ status.asStr ≠ "invoice.paid" ∧
      "sandbox.payout." ++ status.asStr ≠ "invoice.expired" := by
  cases status <;> decide

theorem payoutKind_ne_paymentKind (status : PayoutStatus) (next : PaymentStatus) :
    "sandbox.payout." ++ status.asStr ≠ "payment." ++ next.asStr := by
  cases status <;> cases next <;> decide

theorem paymentKind_inj {next other : PaymentStatus} :
    "payment." ++ next.asStr = "payment." ++ other.asStr ↔ next = other := by
  cases next <;> cases other <;> decide

theorem payoutKind_inj {status other : PayoutStatus} :
    "sandbox.payout." ++ status.asStr = "sandbox.payout." ++ other.asStr ↔ status = other := by
  cases status <;> cases other <;> decide

theorem testKind_ne (next : PaymentStatus) (status : PayoutStatus) :
    "webhook.test" ≠ "payment." ++ next.asStr ∧
      "webhook.test" ≠ "sandbox.payout." ++ status.asStr := by
  cases next <;> cases status <;> decide

/-! ## Invoices -/

def invoiceStatus (id : String) (db : Db) : Option InvoiceStatus :=
  (lookup (fun row : InvoiceRow => row.id) id db.invoices).map fun row => row.status

/-- An invoice has an event for the final status it is in, and no other. -/
structure InvoiceOutbox (db : Db) : Prop where
  ids : KeyUnique (fun row : InvoiceRow => row.id) db.invoices
  paid : ∀ id, eventCount "invoice.paid" id db =
    if invoiceStatus id db = some .paid then 1 else 0
  expired : ∀ id, eventCount "invoice.expired" id db =
    if invoiceStatus id db = some .expired then 1 else 0

/-- A call that writes neither invoices nor their events. -/
theorem InvoiceOutbox.of_kept {db after : Db} (held : InvoiceOutbox db)
    (invoices : after.invoices = db.invoices)
    (paid : ∀ id, eventCount "invoice.paid" id after = eventCount "invoice.paid" id db)
    (expired : ∀ id, eventCount "invoice.expired" id after = eventCount "invoice.expired" id db) :
    InvoiceOutbox after := by
  have status : ∀ id, invoiceStatus id after = invoiceStatus id db := by
    intro id
    rw [invoiceStatus, invoices, invoiceStatus]
  refine ⟨?_, ?_, ?_⟩
  · rw [invoices]
    exact held.ids
  · intro id
    rw [paid, held.paid, status]
  · intro id
    rw [expired, held.expired, status]

theorem InvoiceOutbox.inserted {db : Db} (held : InvoiceOutbox db) {now : DateTime}
    {new : NewInvoice} (fresh : ∀ old ∈ db.invoices, ¬ InvoiceClash (openRow now new) old) :
    InvoiceOutbox (db.withInvoice (openRow now new)) := by
  have status : ∀ id final, InvoiceStatus.isFinal final = true →
      (invoiceStatus id (db.withInvoice (openRow now new)) = some final ↔
        invoiceStatus id db = some final) := by
    intro id final isFinal
    simp only [invoiceStatus, withInvoice, lookup_append_singleton]
    cases lookup (fun row : InvoiceRow => row.id) id db.invoices with
    | some row => rfl
    | none =>
        simp only [Option.none_or, Option.map_none, reduceCtorEq, iff_false]
        split
        · rintro ⟨⟩
          cases isFinal
        · rintro ⟨⟩
  refine ⟨?_, ?_, ?_⟩
  · refine held.ids.append_singleton ?_
    intro old member same
    exact fresh old member (.inl same)
  · intro id
    have kept : eventCount "invoice.paid" id (db.withInvoice (openRow now new)) =
        eventCount "invoice.paid" id db := rfl
    rw [kept, held.paid]
    exact if_congr (status id .paid rfl).symm rfl rfl
  · intro id
    have kept : eventCount "invoice.expired" id (db.withInvoice (openRow now new)) =
        eventCount "invoice.expired" id db := rfl
    rw [kept, held.expired]
    exact if_congr (status id .expired rfl).symm rfl rfl

theorem InvoiceOutbox.credited {db : Db} (held : InvoiceOutbox db) (now : DateTime)
    (dedupeKey kind : String) (payload : Value) (received : ℤ) {row : InvoiceRow}
    (member : row ∈ db.invoices) (stillOpen : row.status = .open_) :
    InvoiceOutbox ((db.withNodeEvent now dedupeKey kind payload).afterPaid now received row) := by
  have found : lookup (fun row : InvoiceRow => row.id) row.id db.invoices = some row :=
    held.ids.lookup_eq_some.mpr ⟨member, rfl⟩
  have before : invoiceStatus row.id db = some .open_ := by
    rw [invoiceStatus, found, Option.map_some, stillOpen]
  have updated : ∀ id,
      invoiceStatus id ((db.withNodeEvent now dedupeKey kind payload).afterPaid now received row) =
        if row.id = id then some .paid else invoiceStatus id db := by
    intro id
    have looked := congrArg (Option.map fun row : InvoiceRow => row.status)
      (lookup_updateWhere_key found (paidRow now received) (fun old => rfl) id)
    refine looked.trans ?_
    split <;> rfl
  refine ⟨held.ids.update fun old => rfl, ?_, ?_⟩
  · intro id
    have kept : eventCount "invoice.paid" id (db.withNodeEvent now dedupeKey kind payload) =
        eventCount "invoice.paid" id db := rfl
    rw [eventCount_afterPaid, updated, kept, held.paid]
    by_cases here : row.id = id
    · subst here
      simp only [before, and_self, if_true, reduceCtorEq, Option.some.injEq, if_false]
    · simp only [here, and_false, if_false, Nat.add_zero]
  · intro id
    have kept : eventCount "invoice.expired" id (db.withNodeEvent now dedupeKey kind payload) =
        eventCount "invoice.expired" id db := rfl
    have other : ¬ ("invoice.paid" = "invoice.expired") := by decide
    rw [eventCount_afterPaid, updated, kept, held.expired]
    by_cases here : row.id = id
    · subst here
      simp only [before, other, false_and, if_false, if_true, reduceCtorEq, Option.some.injEq]
    · simp only [here, and_false, if_false, Nat.add_zero]

/-- The expiry task writes an event about an invoice exactly when it is overdue. -/
theorem InvoiceOutbox.eventCount_afterExpire {db : Db} (held : InvoiceOutbox db) (now : DateTime)
    (kind id : String) :
    eventCount kind id (db.afterExpire now) = eventCount kind id db +
      if "invoice.expired" = kind ∧ ∃ row, lookup (fun row : InvoiceRow => row.id) id db.invoices =
        some row ∧ Overdue now row then 1 else 0 := by
  have written := eventCount_foldl_emitExpired kind id now
    ((db.invoices.filter fun row => Overdue now row).map (expiredRow now))
    { db with invoices := updateWhere (Overdue now) (expiredRow now) db.invoices }
  refine written.trans (congrArg (fun count => eventCount kind id db + count) ?_)
  by_cases expired : "invoice.expired" = kind
  · simp only [expired, true_and]
    rw [← held.ids.countP_eq id (Overdue now), List.countP_map, List.countP_filter]
    refine List.countP_congr fun row _ => ?_
    simp only [Function.comp_apply, expiredRow, Bool.and_eq_true, decide_eq_true_eq]
    exact and_congr_left fun _ => decide_eq_true_iff
  · rw [if_neg fun both => expired both.1]
    refine List.countP_eq_zero.mpr ?_
    intro row _ here
    exact expired (of_decide_eq_true here).1

theorem InvoiceOutbox.overdue {db : Db} (held : InvoiceOutbox db) (now : DateTime) :
    InvoiceOutbox (db.afterExpire now) := by
  have updated : ∀ id, invoiceStatus id (db.afterExpire now) =
      (lookup (fun row : InvoiceRow => row.id) id db.invoices).map fun row =>
        if Overdue now row then .expired else row.status := by
    intro id
    rw [invoiceStatus, afterExpire_invoices, lookup_updateWhere (expiredRow now) (fun row => rfl),
      Option.map_map]
    refine congrArg (fun set => Option.map set _) (funext fun row => ?_)
    simp only [Function.comp_apply]
    split <;> rfl
  refine ⟨?_, ?_, ?_⟩
  · rw [afterExpire_invoices]
    exact held.ids.update fun row => rfl
  · intro id
    have other : ¬ ("invoice.expired" = "invoice.paid") := by decide
    rw [held.eventCount_afterExpire]
    simp only [other, false_and, if_false, Nat.add_zero]
    rw [updated, held.paid, invoiceStatus]
    refine if_congr ?_ rfl rfl
    cases lookup (fun row : InvoiceRow => row.id) id db.invoices with
    | none => rfl
    | some row =>
        simp only [Option.map_some, Option.some.injEq]
        by_cases due : Overdue now row
        · simp only [due.1, due, if_true, reduceCtorEq]
        · simp only [due, if_false]
  · intro id
    rw [held.eventCount_afterExpire, updated, held.expired, invoiceStatus]
    cases lookup (fun row : InvoiceRow => row.id) id db.invoices with
    | none =>
        simp only [Option.map_none, reduceCtorEq, false_and, exists_false, and_false, if_false]
    | some row =>
        simp only [Option.map_some, Option.some.injEq, exists_eq_left', true_and]
        by_cases due : Overdue now row
        · simp only [due.1, due, if_true, reduceCtorEq, if_false]
        · simp only [due, if_false, Nat.add_zero]

theorem Performed.invoiceOutbox {db after : Db} (performed : Performed db after)
    (held : InvoiceOutbox db) : InvoiceOutbox after := by
  cases performed with
  | unchanged => exact held
  | invoiceInserted now new fresh => exact held.inserted fresh
  | invoicePaid now dedupeKey kind payload received row member stillOpen =>
      exact held.credited now dedupeKey kind payload received member stillOpen
  | invoicesExpired now => exact held.overdue now
  | paymentBegun now new keyFree idFree =>
      exact held.of_kept rfl (fun _ => rfl) (fun _ => rfl)
  | paymentMoved now dedupeKey next fee resolution row found legal =>
      refine held.of_kept (afterMove_invoices _ _ _ _ _ _ _) ?_ ?_
      · intro id
        rw [eventCount_afterMove, if_neg fun same => (paymentKind_ne next).1 same.2.1,
          Nat.add_zero]
      · intro id
        rw [eventCount_afterMove, if_neg fun same => (paymentKind_ne next).2 same.2.1,
          Nat.add_zero]
  | quoteInserted row idFree => exact held.of_kept rfl (fun _ => rfl) (fun _ => rfl)
  | payoutReserved now request quote balances fresh =>
      refine held.of_kept rfl ?_ ?_
      · intro id
        rw [eventCount_emitPayout, if_neg fun same => (payoutKind_ne _).1 same.1]
        rfl
      · intro id
        rw [eventCount_emitPayout, if_neg fun same => (payoutKind_ne _).2 same.1]
        rfl
  | payoutAdvanced now current next balances found legal =>
      refine held.of_kept rfl ?_ ?_
      · intro id
        rw [eventCount_emitPayout, if_neg fun same => (payoutKind_ne _).1 same.1]
        rfl
      · intro id
        rw [eventCount_emitPayout, if_neg fun same => (payoutKind_ne _).2 same.1]
        rfl
  | payoutAttached now payoutId paymentId => exact held.of_kept rfl (fun _ => rfl) (fun _ => rfl)
  | balanceCredited balances => exact held.of_kept rfl (fun _ => rfl) (fun _ => rfl)
  | endpointCreated endpoint idFree => exact held.of_kept rfl (fun _ => rfl) (fun _ => rfl)
  | endpointDisabled projectId id => exact held.of_kept rfl (fun _ => rfl) (fun _ => rfl)
  | endpointTested now projectId id data =>
      refine held.of_kept rfl ?_ ?_
      · intro other
        rw [eventCount_emit, if_neg fun same => absurd same.1 (by decide), Nat.add_zero]
      · intro other
        rw [eventCount_emit, if_neg fun same => absurd same.1 (by decide), Nat.add_zero]

/-! ## Payments -/

/-- A payment has an event for the final status it is in, and one for `unknown`
only once it has been there. -/
structure PaymentOutbox (db : Db) : Prop where
  succeeded : ∀ id, eventCount "payment.succeeded" id db =
    if statusOf id db = some .succeeded then 1 else 0
  failed : ∀ id, eventCount "payment.failed" id db =
    if statusOf id db = some .failed then 1 else 0
  unknown : ∀ id, eventCount "payment.unknown" id db ≤ 1
  notUnknown : ∀ id, eventCount "payment.unknown" id db = 1 →
    statusOf id db = some .unknown ∨ statusOf id db = some .succeeded ∨
      statusOf id db = some .failed

/-- A call that writes no payment event, and no payment but a created one. -/
theorem PaymentOutbox.of_kept {db after : Db} (held : PaymentOutbox db)
    (events : ∀ id (next : PaymentStatus), eventCount ("payment." ++ next.asStr) id after =
      eventCount ("payment." ++ next.asStr) id db)
    (status : ∀ id, statusOf id after = statusOf id db ∨
      (statusOf id db = none ∧ statusOf id after = some .created)) : PaymentOutbox after := by
  have other : ∀ id next, next ≠ PaymentStatus.created →
      (statusOf id after = some next ↔ statusOf id db = some next) := by
    intro id next different
    rcases status id with same | ⟨missing, appeared⟩
    · rw [same]
    · rw [missing, appeared]
      simp only [Option.some.injEq, reduceCtorEq, iff_false]
      exact fun same => different same.symm
  refine ⟨?_, ?_, ?_, ?_⟩
  · intro id
    rw [if_congr (other id .succeeded (by decide)) rfl rfl, ← held.succeeded]
    exact events id .succeeded
  · intro id
    rw [if_congr (other id .failed (by decide)) rfl rfl, ← held.failed]
    exact events id .failed
  · intro id
    refine (events id .unknown).trans_le ?_
    exact held.unknown id
  · intro id one
    rw [other id .unknown (by decide), other id .succeeded (by decide),
      other id .failed (by decide)]
    exact held.notUnknown id ((events id .unknown).symm.trans one)

theorem PaymentOutbox.moved {db : Db} (held : PaymentOutbox db) (now : DateTime)
    (dedupeKey : Option String) {next : PaymentStatus} (fee : Option ℤ) (resolution : Resolution)
    {row : PaymentRow} (found : db.findPayment row.id = some row)
    (legal : row.status.canTransitionTo next = true) :
    PaymentOutbox (db.afterMove now dedupeKey next fee resolution row) := by
  have before : statusOf row.id db = some row.status := by
    rw [statusOf, found, Option.map_some]
  have updated : ∀ id, statusOf id (db.afterMove now dedupeKey next fee resolution row) =
      if row.id = id then some next else statusOf id db := by
    intro id
    rw [statusOf, findPayment, afterMove_outgoingPayments]
    have looked := congrArg (Option.map fun row : PaymentRow => row.status)
      (lookup_updateWhere_key found (resolvedRow now next fee resolution) (fun old => rfl) id)
    refine looked.trans ?_
    split <;> rfl
  have count : ∀ kind id, eventCount ("payment." ++ PaymentStatus.asStr kind) id
      (db.afterMove now dedupeKey next fee resolution row) =
      eventCount ("payment." ++ kind.asStr) id db +
        if notifies next = true ∧ next = kind ∧ row.id = id then 1 else 0 := by
    intro kind id
    rw [eventCount_afterMove]
    simp only [paymentKind_inj]
  have unresolved : row.status.isFinal = false := by
    cases final : row.status.isFinal with
    | false => rfl
    | true =>
        rw [PaymentStatus.not_canTransitionTo_of_isFinal final] at legal
        cases legal
  have final : ∀ kind : PaymentStatus, kind.isFinal = true → notifies kind = true → ∀ id,
      eventCount ("payment." ++ kind.asStr) id db =
        (if statusOf id db = some kind then 1 else 0) →
      eventCount ("payment." ++ kind.asStr) id
          (db.afterMove now dedupeKey next fee resolution row) =
        if statusOf id (db.afterMove now dedupeKey next fee resolution row) = some kind
        then 1 else 0 := by
    intro kind isFinal notified id counted
    rw [count, updated, counted]
    by_cases here : row.id = id
    · subst here
      have different : ¬ row.status = kind := by
        rintro rfl
        rw [unresolved] at isFinal
        cases isFinal
      by_cases same : next = kind
      · subst same
        simp only [before, Option.some.injEq, different, if_false, notified, and_self, if_true]
      · simp only [before, Option.some.injEq, different, if_false, same, false_and, and_false,
          if_true]
    · simp only [here, and_false, if_false, Nat.add_zero]
  have entering : next = .unknown → eventCount "payment.unknown" row.id db = 0 := by
    rintro rfl
    have pending := PaymentStatus.eq_pending_of_canTransitionTo_unknown legal
    have atMost := held.unknown row.id
    have notOne : eventCount "payment.unknown" row.id db ≠ 1 := by
      intro one
      have there := held.notUnknown row.id one
      rw [before, pending] at there
      simp only [Option.some.injEq, reduceCtorEq, or_self] at there
    omega
  have unknownCount : ∀ id, eventCount "payment.unknown" id
      (db.afterMove now dedupeKey next fee resolution row) =
      eventCount "payment.unknown" id db + if next = .unknown ∧ row.id = id then 1 else 0 := by
    intro id
    refine (count .unknown id).trans ?_
    refine congrArg (eventCount "payment.unknown" id db + ·) (if_congr ?_ rfl rfl)
    constructor
    · rintro ⟨-, both⟩
      exact both
    · rintro ⟨rfl, same⟩
      exact ⟨rfl, rfl, same⟩
  refine ⟨?_, ?_, ?_, ?_⟩
  · intro id
    exact final .succeeded rfl rfl id (held.succeeded id)
  · intro id
    exact final .failed rfl rfl id (held.failed id)
  · intro id
    rw [unknownCount]
    by_cases entered : next = .unknown ∧ row.id = id
    · obtain ⟨enters, rfl⟩ := entered
      rw [entering enters, if_pos ⟨enters, rfl⟩]
    · rw [if_neg entered]
      exact held.unknown id
  · intro id one
    rw [unknownCount] at one
    rw [updated]
    by_cases here : row.id = id
    · subst here
      simp only [if_true, Option.some.injEq]
      by_cases enters : next = .unknown
      · exact .inl enters
      · rw [if_neg fun both => enters both.1] at one
        have there := held.notUnknown row.id one
        rw [before] at there
        simp only [Option.some.injEq] at there
        revert legal unresolved there enters
        cases row.status <;> cases next <;> decide
    · rw [if_neg here]
      rw [if_neg fun both => here both.2] at one
      exact held.notUnknown id one

theorem Performed.paymentOutbox {db after : Db} (performed : Performed db after)
    (held : PaymentOutbox db) : PaymentOutbox after := by
  cases performed with
  | unchanged => exact held
  | invoiceInserted now new fresh => exact held.of_kept (fun _ _ => rfl) (fun _ => .inl rfl)
  | invoicePaid now dedupeKey kind payload received row member stillOpen =>
      refine held.of_kept ?_ (fun _ => .inl rfl)
      intro id next
      rw [eventCount_afterPaid, if_neg fun same => (paymentKind_ne next).1 same.1.symm]
      rfl
  | invoicesExpired now =>
      refine held.of_kept ?_ ?_
      · intro id next
        refine (eventCount_foldl_emitExpired _ id now _ _).trans ?_
        refine congrArg (eventCount _ id db + ·) (List.countP_eq_zero.mpr ?_)
        intro row _ here
        exact (paymentKind_ne next).2 (of_decide_eq_true here).1.symm
      · intro id
        refine .inl ?_
        rw [statusOf, findPayment, afterExpire_outgoingPayments]
        rfl
  | paymentBegun now new keyFree idFree =>
      refine held.of_kept (fun _ _ => rfl) ?_
      intro id
      have appended : statusOf id (db.withPayment (createdRow now new)) =
          ((db.findPayment id).or (if new.id = id then some (createdRow now new) else none)).map
            fun row => row.status := by
        rw [statusOf, findPayment, withPayment, lookup_append_singleton]
        rfl
      by_cases here : new.id = id
      · subst here
        rw [appended, statusOf, idFree, if_pos rfl]
        exact .inr ⟨rfl, rfl⟩
      · rw [appended, if_neg here, Option.or_none]
        exact .inl rfl
  | paymentMoved now dedupeKey next fee resolution row found legal =>
      exact held.moved now dedupeKey fee resolution found legal
  | quoteInserted row idFree => exact held.of_kept (fun _ _ => rfl) (fun _ => .inl rfl)
  | payoutReserved now request quote balances fresh =>
      refine held.of_kept ?_ (fun _ => .inl rfl)
      intro id next
      rw [eventCount_emitPayout, if_neg fun same => payoutKind_ne_paymentKind _ next same.1]
      rfl
  | payoutAdvanced now current next balances found legal =>
      refine held.of_kept ?_ (fun _ => .inl rfl)
      intro id next
      rw [eventCount_emitPayout, if_neg fun same => payoutKind_ne_paymentKind _ next same.1]
      rfl
  | payoutAttached now payoutId paymentId => exact held.of_kept (fun _ _ => rfl) (fun _ => .inl rfl)
  | balanceCredited balances => exact held.of_kept (fun _ _ => rfl) (fun _ => .inl rfl)
  | endpointCreated endpoint idFree => exact held.of_kept (fun _ _ => rfl) (fun _ => .inl rfl)
  | endpointDisabled projectId id => exact held.of_kept (fun _ _ => rfl) (fun _ => .inl rfl)
  | endpointTested now projectId id data =>
      refine held.of_kept ?_ (fun _ => .inl rfl)
      intro other next
      rw [eventCount_emit, if_neg fun same => (testKind_ne next .reserved).1 same.1, Nat.add_zero]

/-! ## Payouts -/

def payoutStatus (id : String) (db : Db) : Option PayoutStatus :=
  (db.findPayout id).map fun row => row.status

/-- What a call does to the status of a payout and to its events: nothing, or the
payout enters a status below the one it was in, with one event. -/
inductive PayoutChanged (id : String) (db after : Db) : Prop where
  | kept (status : payoutStatus id after = payoutStatus id db)
      (events : ∀ next : PayoutStatus, eventCount ("sandbox.payout." ++ next.asStr) id after =
        eventCount ("sandbox.payout." ++ next.asStr) id db)
  | entered (next : PayoutStatus)
      (above : ∀ status, payoutStatus id db = some status → next.remaining < status.remaining)
      (status : payoutStatus id after = some next)
      (events : ∀ other : PayoutStatus, eventCount ("sandbox.payout." ++ other.asStr) id after =
        eventCount ("sandbox.payout." ++ other.asStr) id db + if next = other then 1 else 0)

theorem eventCount_emitPayout_kind (other : PayoutStatus) (id : String) (now : DateTime)
    (payout : PayoutRecord) (tx : Db) :
    eventCount ("sandbox.payout." ++ other.asStr) id (tx.emitPayout now payout) =
      eventCount ("sandbox.payout." ++ other.asStr) id tx +
        if payout.status = other ∧ payout.id = id then 1 else 0 := by
  rw [eventCount_emitPayout]
  simp only [payoutKind_inj]

theorem Performed.payout {db after : Db} (performed : Performed db after) (id : String) :
    PayoutChanged id db after := by
  cases performed with
  | unchanged => exact .kept rfl fun _ => rfl
  | invoiceInserted now new fresh => exact .kept rfl fun _ => rfl
  | invoicePaid now dedupeKey kind payload received row member stillOpen =>
      refine .kept rfl fun next => ?_
      rw [eventCount_afterPaid, if_neg fun same => (payoutKind_ne next).1 same.1.symm]
      rfl
  | invoicesExpired now =>
      refine .kept ?_ fun next => ?_
      · rw [payoutStatus, findPayout, afterExpire_sandboxPayouts]
        rfl
      · refine (eventCount_foldl_emitExpired _ id now _ _).trans ?_
        refine congrArg (eventCount _ id db + ·) (List.countP_eq_zero.mpr ?_)
        intro row _ here
        exact (payoutKind_ne next).2 (of_decide_eq_true here).1.symm
  | paymentBegun now new keyFree idFree => exact .kept rfl fun _ => rfl
  | paymentMoved now dedupeKey next fee resolution row found legal =>
      refine .kept ?_ fun status => ?_
      · rw [payoutStatus, findPayout, afterMove_sandboxPayouts]
        rfl
      · rw [eventCount_afterMove,
          if_neg fun same => payoutKind_ne_paymentKind status next same.2.1.symm, Nat.add_zero]
  | quoteInserted row idFree => exact .kept rfl fun _ => rfl
  | payoutReserved now request quote balances fresh =>
      have idFree : db.findPayout request.payoutId = none :=
        lookup_eq_none.mpr fun old member same => fresh old member (.inl same)
      have appended : payoutStatus id ({ db.withUsedQuote quote with
          sandboxBalances := balances
          sandboxPayouts := db.sandboxPayouts ++ [reservedRow now request] }.emitPayout now
            (reservedRow now request)) =
          ((db.findPayout id).or
            (if request.payoutId = id then some (reservedRow now request) else none)).map
              fun row => row.status :=
        congrArg (Option.map fun row : PayoutRecord => row.status)
          (lookup_append_singleton id (reservedRow now request))
      by_cases here : request.payoutId = id
      · subst here
        refine .entered .reserved ?_ ?_ ?_
        · intro status shown
          rw [payoutStatus, idFree] at shown
          cases shown
        · rw [appended, idFree, if_pos rfl]
          rfl
        · intro other
          rw [eventCount_emitPayout_kind]
          refine congrArg (eventCount _ request.payoutId db + ·) (if_congr ?_ rfl rfl)
          exact and_iff_left rfl
      · refine .kept ?_ fun next => ?_
        · rw [appended, if_neg here, Option.or_none]
          rfl
        · rw [eventCount_emitPayout_kind, if_neg fun same => here same.2]
          rfl
  | payoutAdvanced now current next balances found legal =>
      have updated : payoutStatus id ({ db.withAdvanced now current.id next with
          sandboxBalances := balances }.emitPayout now (advancedRow now next current)) =
          if current.id = id then some next else payoutStatus id db := by
        refine (congrArg (Option.map fun row : PayoutRecord => row.status)
          (lookup_updateWhere_key found (advancedRow now next) (fun old => rfl) id)).trans ?_
        split <;> rfl
      by_cases here : current.id = id
      · subst here
        refine .entered next ?_ ?_ ?_
        · intro status shown
          rw [payoutStatus, found] at shown
          cases shown
          exact PayoutStatus.remaining_lt legal
        · rw [updated, if_pos rfl]
        · intro other
          rw [eventCount_emitPayout_kind]
          refine congrArg (eventCount _ current.id db + ·) (if_congr ?_ rfl rfl)
          exact and_iff_left rfl
      · refine .kept ?_ fun other => ?_
        · rw [updated, if_neg here]
        · rw [eventCount_emitPayout_kind, if_neg fun same => here same.2]
          rfl
  | payoutAttached now payoutId paymentId =>
      refine .kept ?_ fun _ => rfl
      refine (congrArg (Option.map fun row : PayoutRecord => row.status)
        (lookup_updateWhere (attachedRow now paymentId) (fun row => rfl) id)).trans ?_
      rw [Option.map_map]
      refine congrArg (fun read => Option.map read (db.findPayout id)) (funext fun row => ?_)
      simp only [Function.comp_apply]
      split <;> rfl
  | balanceCredited balances => exact .kept rfl fun _ => rfl
  | endpointCreated endpoint idFree => exact .kept rfl fun _ => rfl
  | endpointDisabled projectId id => exact .kept rfl fun _ => rfl
  | endpointTested now projectId endpointId data =>
      refine .kept rfl fun next => ?_
      rw [eventCount_emit, if_neg fun same => (testKind_ne .created next).2 same.1, Nat.add_zero]

/-- The statuses a payout entered in a run. -/
def enteredStatuses (id : String) (calls : List Call) : List PayoutStatus :=
  storage.observed (payoutStatus id) {} calls

/-- A payout has one event for each status it entered. The statuses it entered
earlier are above the one it is in, so none is entered twice. -/
structure PayoutOutbox (id : String) (calls : List Call) (db : Db) : Prop where
  events : ∀ status : PayoutStatus, eventCount ("sandbox.payout." ++ status.asStr) id db =
    if status ∈ enteredStatuses id calls then 1 else 0
  current : ∀ status, payoutStatus id db = some status → status ∈ enteredStatuses id calls
  above : ∀ status ∈ enteredStatuses id calls, ∃ now, payoutStatus id db = some now ∧
    now.remaining ≤ status.remaining

theorem payoutOutbox_of_run {calls : List Call} {db : Db} (ran : storage.run {} calls = some db)
    (id : String) : PayoutOutbox id calls db := by
  refine Machine.run_induction (fun calls db => PayoutOutbox id calls db) ?_ ?_ ran
  · refine ⟨fun status => rfl, ?_, ?_⟩
    · rintro _ ⟨⟩
    · rintro _ ⟨⟩
  · intro calls db call after ran held step
    have history : enteredStatuses id (calls ++ [call]) =
        enteredStatuses id calls ++ (payoutStatus id after).toList :=
      Machine.observed_snoc (payoutStatus id) ran step
    cases step
    cases (perform_performed call db).payout id with
    | kept status events =>
        have same : ∀ shown, shown ∈ enteredStatuses id (calls ++ [call]) ↔
            shown ∈ enteredStatuses id calls := by
          intro shown
          rw [history, status, List.mem_append, Option.mem_toList]
          exact or_iff_left_of_imp fun here => held.current shown here
        refine ⟨?_, ?_, ?_⟩
        · intro shown
          rw [events, held.events]
          exact if_congr (same shown).symm rfl rfl
        · intro shown here
          exact (same shown).mpr (held.current shown (status ▸ here))
        · intro shown here
          rw [status]
          exact held.above shown ((same shown).mp here)
    | entered next above status events =>
        have fresh : next ∉ enteredStatuses id calls := by
          intro earlier
          obtain ⟨now, current, below⟩ := held.above next earlier
          exact Nat.not_le_of_lt (above now current) below
        have same : ∀ shown, shown ∈ enteredStatuses id (calls ++ [call]) ↔
            shown ∈ enteredStatuses id calls ∨ next = shown := by
          intro shown
          rw [history, status, List.mem_append, Option.mem_toList, Option.some.injEq]
        refine ⟨?_, ?_, ?_⟩
        · intro shown
          rw [events, held.events, if_congr (same shown) rfl rfl]
          by_cases here : next = shown
          · subst here
            simp only [fresh, if_false, if_true, or_true]
          · simp only [here, if_false, or_false, Nat.add_zero]
        · intro shown here
          rw [status] at here
          cases here
          exact (same next).mpr (.inr rfl)
        · intro shown here
          refine ⟨next, status, ?_⟩
          rcases (same shown).mp here with earlier | rfl
          · obtain ⟨now, current, below⟩ := held.above shown earlier
            exact (above now current).le.trans below
          · exact Nat.le_refl _

/-! ## The outbox -/

theorem invoiceOutbox_of_reachable {db : Db} (reached : storage.Reachable db) :
    InvoiceOutbox db := by
  refine reached.invariant InvoiceOutbox ?_ ?_
  · rintro _ rfl
    exact ⟨KeyUnique.nil, fun _ => rfl, fun _ => rfl⟩
  · intro db call after _ held step
    cases step
    exact (perform_performed call db).invoiceOutbox held

theorem paymentOutbox_of_reachable {db : Db} (reached : storage.Reachable db) :
    PaymentOutbox db := by
  refine reached.invariant PaymentOutbox ?_ ?_
  · rintro _ rfl
    refine ⟨fun _ => rfl, fun _ => rfl, fun _ => Nat.zero_le _, ?_⟩
    rintro _ ⟨⟩
  · intro db call after _ held step
    cases step
    exact (perform_performed call db).paymentOutbox held

/-- **The outbox.** After every run of storage calls: an invoice has exactly one
`invoice.paid` event if it is paid and none otherwise, and the same for
`invoice.expired`; a payment has exactly one `payment.succeeded` event if it is
succeeded and none otherwise, the same for `payment.failed`, and at most one
`payment.unknown` event; a payout has exactly one `sandbox.payout.s` event for
each status `s` it entered and none for the others; and every event has exactly
one delivery for each endpoint of its project that was enabled when it was
written, and none for any other endpoint. -/
theorem outbox (calls : List Call) (db : Db) (ran : storage.run {} calls = some db) :
    (∀ invoice ∈ db.invoices,
      eventCount "invoice.paid" invoice.id db = (if invoice.status = .paid then 1 else 0) ∧
      eventCount "invoice.expired" invoice.id db =
        (if invoice.status = .expired then 1 else 0)) ∧
    (∀ payment ∈ db.outgoingPayments,
      eventCount "payment.succeeded" payment.id db =
        (if payment.status = .succeeded then 1 else 0) ∧
      eventCount "payment.failed" payment.id db = (if payment.status = .failed then 1 else 0) ∧
      eventCount "payment.unknown" payment.id db ≤ 1) ∧
    (∀ payout ∈ db.sandboxPayouts, ∀ status : PayoutStatus,
      eventCount ("sandbox.payout." ++ status.asStr) payout.id db =
        if status ∈ enteredStatuses payout.id calls then 1 else 0) ∧
    (∀ event ∈ db.events, ∃ before call rest earlier, calls = before ++ call :: rest ∧
      storage.run {} before = some earlier ∧ event ∉ earlier.events ∧
      event ∈ (earlier.perform call).events ∧ ∀ endpointId,
        deliveryCount event.seq endpointId db =
          if Enabled earlier.webhookEndpoints event.projectId endpointId then 1 else 0) := by
  have reached : storage.Reachable db := Machine.reachable_of_run rfl ran
  have invoices := invoiceOutbox_of_reachable reached
  have payments := paymentOutbox_of_reachable reached
  have keyed := paymentKeys_of_reachable reached
  refine ⟨?_, ?_, ?_, event_deliveries ran⟩
  · intro invoice member
    have status : invoiceStatus invoice.id db = some invoice.status := by
      rw [invoiceStatus, invoices.ids.lookup_eq_some.mpr ⟨member, rfl⟩, Option.map_some]
    refine ⟨?_, ?_⟩
    · rw [invoices.paid, status]
      simp only [Option.some.injEq]
    · rw [invoices.expired, status]
      simp only [Option.some.injEq]
  · intro payment member
    have status : statusOf payment.id db = some payment.status := by
      rw [statusOf, findPayment, keyed.ids.lookup_eq_some.mpr ⟨member, rfl⟩, Option.map_some]
    refine ⟨?_, ?_, payments.unknown payment.id⟩
    · rw [payments.succeeded, status]
      simp only [Option.some.injEq]
    · rw [payments.failed, status]
      simp only [Option.some.injEq]
  · intro payout _ status
    exact (payoutOutbox_of_run ran payout.id).events status

/-- An invoice that is paid, with one endpoint to tell. -/
def paidInvoiceCalls : List Call := [
  .createWebhookEndpoint 1 "whk_1" "prj_1" "https://merchant.example/hooks" "whsec_1",
  .insertInvoice 2 ⟨"inv_1", "prj_1", none, 5000, "", "lnbcrt50n1", "hash", 100, .object []⟩,
  .markInvoicePaid 3 "recv:hash" "hash" 5000]

theorem outbox_paid_invoice : ∃ db, storage.run {} paidInvoiceCalls = some db ∧
    eventCount "invoice.paid" "inv_1" db = 1 ∧ deliveryCount 1 "whk_1" db = 1 := by
  refine ⟨_, rfl, ?_, ?_⟩
  · exact ((outbox paidInvoiceCalls _ rfl).1 _ List.mem_cons_self).1
  · decide

end Db

end Safrod

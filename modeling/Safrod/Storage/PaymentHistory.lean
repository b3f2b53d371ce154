import Safrod.Storage.Operations

/-!
# Histories of payments

`PaymentsChanged` is what one storage call can do to the table of payments: leave
it, add a created row under new keys, or move one row along an edge of
`canTransitionTo`. From it:

* the identifiers and the idempotency keys stay unique (`paymentKeys_of_reachable`);
* the statuses a row goes through are a path of `canTransitionTo` from `created`,
  and a final row is never written again (`payment_history`);
* a call that reports an error or no change leaves the database as it was.
-/

set_option autoImplicit false

namespace Safrod

open Table

namespace Db

/-! ## What a call does to the table of payments -/

inductive PaymentsChanged (db : Db) (rows : List PaymentRow) : Prop where
  | same (kept : rows = db.outgoingPayments)
  | begun (now : DateTime) (new : NewPayment)
      (keyFree : db.findPaymentByKey new.projectId new.idempotencyKey = none)
      (idFree : db.findPayment new.id = none)
      (added : rows = db.outgoingPayments ++ [createdRow now new])
  | moved (now : DateTime) (next : PaymentStatus) (fee : Option ℤ) (resolution : Resolution)
      (row : PaymentRow) (found : db.findPayment row.id = some row)
      (legal : row.status.canTransitionTo next = true)
      (set : rows = updateWhere (fun old => old.id = row.id)
        (resolvedRow now next fee resolution) db.outgoingPayments)

theorem Performed.payments {db after : Db} (performed : Performed db after) :
    PaymentsChanged db after.outgoingPayments := by
  cases performed with
  | unchanged => exact .same rfl
  | invoiceInserted now new fresh => exact .same rfl
  | invoicePaid now dedupeKey kind payload received row member stillOpen => exact .same rfl
  | invoicesExpired now => exact .same (afterExpire_outgoingPayments now db)
  | paymentBegun now new keyFree idFree => exact .begun now new keyFree idFree rfl
  | paymentMoved now dedupeKey next fee resolution row found legal =>
      exact .moved now next fee resolution row found legal
        (afterMove_outgoingPayments _ _ _ _ _ _ _)
  | quoteInserted row idFree => exact .same rfl
  | payoutReserved now request quote balances fresh => exact .same rfl
  | payoutAdvanced now current next balances found legal => exact .same rfl
  | payoutAttached now payoutId paymentId => exact .same rfl
  | balanceCredited balances => exact .same rfl
  | endpointCreated endpoint idFree => exact .same rfl
  | endpointDisabled projectId id => exact .same rfl
  | endpointTested now projectId id data => exact .same rfl

/-! ## Unique keys -/

/-- The primary key and the unique index of `outgoing_payments`. -/
structure PaymentKeys (rows : List PaymentRow) : Prop where
  ids : KeyUnique (fun row : PaymentRow => row.id) rows
  idempotency : KeyUnique (fun row : PaymentRow => (row.projectId, row.idempotencyKey)) rows

theorem PaymentsChanged.keys {db : Db} {rows : List PaymentRow} (changed : PaymentsChanged db rows)
    (keyed : PaymentKeys db.outgoingPayments) : PaymentKeys rows := by
  cases changed with
  | same kept =>
      rw [kept]
      exact keyed
  | begun now new keyFree idFree added =>
      rw [added]
      refine ⟨keyed.ids.append_singleton ?_, keyed.idempotency.append_singleton ?_⟩
      · intro old member
        exact lookup_none idFree member
      · intro old member
        exact lookup_none keyFree member
  | moved now next fee resolution row found legal set =>
      rw [set]
      refine ⟨keyed.ids.update ?_, keyed.idempotency.update ?_⟩
      · intro old
        rfl
      · intro old
        rfl

theorem paymentKeys_of_reachable {db : Db} (reached : storage.Reachable db) :
    PaymentKeys db.outgoingPayments := by
  refine reached.invariant (fun db => PaymentKeys db.outgoingPayments) ?_ ?_
  · rintro _ rfl
    exact ⟨KeyUnique.nil, KeyUnique.nil⟩
  · intro db call after _ keyed step
    cases step
    exact (perform_performed call db).payments.keys keyed

/-! ## One row -/

/-- What a call does to the row of one identifier. -/
inductive RowChanged : Option PaymentRow → Option PaymentRow → Prop where
  | same (row : Option PaymentRow) : RowChanged row row
  | created (row : PaymentRow) (status : row.status = .created) : RowChanged none (some row)
  | moved (now : DateTime) (next : PaymentStatus) (fee : Option ℤ) (resolution : Resolution)
      (row : PaymentRow) (legal : row.status.canTransitionTo next = true) :
      RowChanged (some row) (some (resolvedRow now next fee resolution row))

/-- A lookup after an insert under a new identifier. -/
theorem findPayment_withPayment (row : PaymentRow) (db : Db) (id : String) :
    (db.withPayment row).findPayment id =
      (db.findPayment id).or (if row.id = id then some row else none) := by
  rw [findPayment, withPayment, lookup_append_singleton]
  rfl

/-- A lookup after a move. -/
theorem findPayment_of_set {db after : Db} {now : DateTime} {next : PaymentStatus}
    {fee : Option ℤ} {resolution : Resolution} {row : PaymentRow}
    (found : db.findPayment row.id = some row)
    (set : after.outgoingPayments = updateWhere (fun old => old.id = row.id)
      (resolvedRow now next fee resolution) db.outgoingPayments) (id : String) :
    after.findPayment id =
      if row.id = id then some (resolvedRow now next fee resolution row)
      else db.findPayment id := by
  rw [findPayment, set]
  exact lookup_updateWhere_key found (resolvedRow now next fee resolution) (fun old => rfl) id

theorem PaymentsChanged.row {db after : Db} (changed : PaymentsChanged db after.outgoingPayments)
    (id : String) : RowChanged (db.findPayment id) (after.findPayment id) := by
  cases changed with
  | same kept =>
      have unchanged : after.findPayment id = db.findPayment id := by
        rw [findPayment, kept, findPayment]
      rw [unchanged]
      exact .same _
  | begun now new keyFree idFree added =>
      have appended : after.findPayment id = (db.findPayment id).or
          (if new.id = id then some (createdRow now new) else none) := by
        have same : after.findPayment id =
            (db.withPayment (createdRow now new)).findPayment id := by
          rw [findPayment, added, findPayment, withPayment]
        exact same.trans (findPayment_withPayment _ db id)
      by_cases here : new.id = id
      · subst here
        rw [appended, idFree, if_pos rfl]
        exact .created _ rfl
      · rw [appended, if_neg here, Option.or_none]
        exact .same _
  | moved now next fee resolution row found legal set =>
      have updated := findPayment_of_set found set id
      by_cases here : row.id = id
      · subst here
        rw [updated, if_pos rfl, found]
        exact .moved now next fee resolution row legal
      · rw [updated, if_neg here]
        exact .same _

/-- A later version of a row: the columns that no update writes are the same. -/
structure Kept (row later : PaymentRow) : Prop where
  id : later.id = row.id
  projectId : later.projectId = row.projectId
  idempotencyKey : later.idempotencyKey = row.idempotencyKey
  paymentHash : later.paymentHash = row.paymentHash
  requestHash : later.requestHash = row.requestHash
  createdAt : later.createdAt = row.createdAt

theorem Kept.refl (row : PaymentRow) : Kept row row := ⟨rfl, rfl, rfl, rfl, rfl, rfl⟩

/-- A stored row stays stored. -/
theorem RowChanged.kept {row : PaymentRow} {after : Option PaymentRow}
    (changed : RowChanged (some row) after) : ∃ later, after = some later ∧ Kept row later := by
  cases changed with
  | same => exact ⟨row, rfl, .refl row⟩
  | moved now next fee resolution row legal => exact ⟨_, rfl, ⟨rfl, rfl, rfl, rfl, rfl, rfl⟩⟩

/-- A row stays for one invoice and one amount. -/
theorem RowChanged.target {row : PaymentRow} {after : Option PaymentRow}
    (changed : RowChanged (some row) after) :
    ∃ later, after = some later ∧ later.projectId = row.projectId ∧
      later.bolt11 = row.bolt11 ∧ later.amountMsat = row.amountMsat := by
  cases changed with
  | same => exact ⟨row, rfl, rfl, rfl, rfl⟩
  | moved now next fee resolution row legal => exact ⟨_, rfl, rfl, rfl, rfl⟩

/-- A final row is not written again. -/
theorem RowChanged.frozen {row : PaymentRow} {after : Option PaymentRow}
    (changed : RowChanged (some row) after) (final : row.status.isFinal = true) :
    after = some row := by
  cases changed with
  | same => rfl
  | moved now next fee resolution row legal =>
      rw [PaymentStatus.not_canTransitionTo_of_isFinal final] at legal
      cases legal

theorem final_row_kept {earlier later : Db} (reached : storage.Reachable earlier)
    (leads : storage.Leads earlier later) {row : PaymentRow}
    (member : row ∈ earlier.outgoingPayments) (final : row.status.isFinal = true) :
    later.findPayment row.id = some row := by
  have keyed := paymentKeys_of_reachable reached
  have found : earlier.findPayment row.id = some row :=
    keyed.ids.lookup_eq_some.mpr ⟨member, rfl⟩
  refine Machine.Leads.induct
    (fun earlier later => earlier.findPayment row.id = some row →
      later.findPayment row.id = some row) ?_ ?_ ?_ reached leads found
  · intro db here
    exact here
  · intro first second third before after here
    exact after (before here)
  · intro db call next _ step here
    cases step
    have changed := (perform_performed call db).payments.row row.id
    rw [here] at changed
    exact changed.frozen final

/-! ## Histories -/

/-- The stored status of a payment. -/
def statusOf (id : String) (db : Db) : Option PaymentStatus :=
  (db.findPayment id).map fun row => row.status

/-- The stored statuses of a payment along a run, without repetitions of the one
before. -/
def statusHistory (id : String) (calls : List Call) : List PaymentStatus :=
  (storage.observed (statusOf id) {} calls).destutter (· ≠ ·)

/-- A row appears as created. -/
theorem RowChanged.status_appears {db after : Db} {id : String} {status : PaymentStatus}
    (changed : RowChanged (db.findPayment id) (after.findPayment id))
    (missing : statusOf id db = none) (shown : statusOf id after = some status) :
    status = .created := by
  simp only [statusOf, Option.map_eq_none_iff, Option.map_eq_some_iff] at missing shown
  obtain ⟨row, found, rfl⟩ := shown
  rw [missing, found] at changed
  cases changed with
  | created row status => exact status

/-- A row stays where it is or moves along an edge. -/
theorem RowChanged.status_moves {db after : Db} {id : String} {status : PaymentStatus}
    (changed : RowChanged (db.findPayment id) (after.findPayment id))
    (shown : statusOf id db = some status) :
    ∃ next, statusOf id after = some next ∧
      (status = next ∨ status.canTransitionTo next = true) := by
  simp only [statusOf, Option.map_eq_some_iff] at shown ⊢
  obtain ⟨row, found, rfl⟩ := shown
  rw [found] at changed
  generalize after.findPayment id = later at changed
  cases changed with
  | same => exact ⟨row.status, ⟨row, rfl, rfl⟩, .inl rfl⟩
  | moved now next fee resolution row legal => exact ⟨next, ⟨_, rfl, rfl⟩, .inr legal⟩

theorem statusHistory_isPath (id : String) {calls : List Call} {db : Db}
    (ran : storage.run {} calls = some db) :
    (statusHistory id calls).IsChain (fun status next => status.canTransitionTo next = true) ∧
      ∀ status, (statusHistory id calls).head? = some status → status = .created := by
  have stepRow : ∀ state call next, storage.step state call = some next →
      RowChanged (state.findPayment id) (next.findPayment id) := by
    intro state call next step
    cases step
    exact (perform_performed call state).payments.row id
  have appears : ∀ state call next, storage.step state call = some next →
      statusOf id state = none → ∀ status, statusOf id next = some status →
        status = .created := by
    intro state call next step missing status shown
    exact (stepRow state call next step).status_appears missing shown
  have stays : ∀ state call next, storage.step state call = some next →
      ∀ status, statusOf id state = some status → ∃ status', statusOf id next = some status' ∧
        (status = status' ∨ status.canTransitionTo status' = true) := by
    intro state call next step status shown
    exact (stepRow state call next step).status_moves shown
  obtain ⟨chain, head, -⟩ := Machine.observed_isChain (statusOf id)
    (fun status next => status.canTransitionTo next = true) (fun status => status = .created)
    (by rintro _ ⟨⟩) appears stays ran
  unfold statusHistory
  cases shape : storage.observed (statusOf id) {} calls with
  | nil =>
      refine ⟨List.IsChain.nil, ?_⟩
      rintro _ ⟨⟩
  | cons status rest =>
      rw [shape] at chain head
      refine ⟨List.isChain_destutter'_of_eq_or chain, ?_⟩
      intro first firstShown
      obtain ⟨others, opened⟩ := List.destutter'_ne_eq_cons status rest
      rw [List.destutter_cons', opened] at firstShown
      cases firstShown
      exact head status rfl

/-- **The history of a payment.** Along every run of storage calls the stored
statuses of a payment are a path of `canTransitionTo` that starts at `created`,
and a succeeded or failed row keeps all its columns in every later database. A
call of `beginPayment` or `transitionPayment` that reports an error, or that it
created or changed nothing, leaves the whole database as it was. -/
theorem payment_history :
    (∀ (calls : List Call) (db : Db), storage.run {} calls = some db → ∀ id,
      (statusHistory id calls).IsChain (fun status next => status.canTransitionTo next = true) ∧
        ∀ status, (statusHistory id calls).head? = some status → status = .created) ∧
    (∀ earlier later : Db, storage.Reachable earlier → storage.Leads earlier later →
      ∀ row ∈ earlier.outgoingPayments, row.status.isFinal = true →
        later.findPayment row.id = some row) ∧
    (∀ (db after : Db) (now : DateTime) (new : NewPayment)
      (answer : Except StorageError BeginOutcome),
      beginPayment now new db = (answer, after) →
      (∀ begun, answer = .ok begun → begun.created = false) → after = db) ∧
    (∀ (db after : Db) (now : DateTime) (dedupeKey : Option String) (paymentId : String)
      (next : PaymentStatus) (resolution : Resolution) (answer : Except StorageError Transitioned),
      transitionPayment now dedupeKey paymentId next resolution db = (answer, after) →
      (∀ moved, answer = .ok moved → moved.changed = false) → after = db) := by
  refine ⟨?_, ?_, ?_, ?_⟩
  · intro calls db ran id
    exact statusHistory_isPath id ran
  · intro earlier later reached leads row member final
    exact final_row_kept reached leads member final
  · intro db after now new answer call quiet
    cases beginPayment_begun call with
    | inserted fits positive keyFree idFree => cases quiet _ rfl
    | existing row found same => rfl
    | mismatch row found differs => rfl
    | outOfRange invalid error reason => rfl
    | taken keyFree row found => rfl
  · intro db after now dedupeKey paymentId next resolution answer call quiet
    cases transitionPayment_moved call with
    | missing absent => rfl
    | replayed row found key keyed claimed => rfl
    | repeated row found same => rfl
    | illegal row found illegal => rfl
    | outOfRange row found legal fee given large => rfl
    | moved row found unclaimed legal fee fits => cases quiet _ rfl

end Db

end Safrod

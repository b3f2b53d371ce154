import Mathlib.Data.List.Sort
import Safrod.Storage.Events

/-!
# Outgoing payments

`beginPayment` inserts a payment under its idempotency key or reads the one that
is there. `transitionPayment` moves a payment to a status: it takes the row,
claims the dedupe key if there is one, and ends without a commit when the key
was claimed before or the row already has the status, so that the claim is
rolled back too.

`Begun` and `Moved` list all that a call can do, one constructor for each exit,
and everything else about the two operations is derived from them
(`beginPayment_begun`, `transitionPayment_moved`).
-/

set_option autoImplicit false

namespace Safrod

open Table

structure NewPayment where
  id : String
  projectId : String
  idempotencyKey : String
  requestHash : List UInt8
  bolt11 : String
  paymentHash : String
  amountMsat : ℕ
  metadata : Value

structure BeginOutcome where
  payment : PaymentRecord
  /-- False when the idempotency key already existed. -/
  created : Bool

structure Resolution where
  feeMsat : Option ℕ := none
  failureReason : Option String := none
  preimage : Option String := none

structure Transitioned where
  payment : PaymentRecord
  changed : Bool

def paymentEventData (payment : PaymentRecord) : Value :=
  .object [
    ("payment_id", .string payment.id),
    ("status", .string payment.status.asStr),
    ("amount_msat", .number payment.amountMsat),
    ("fee_msat", .ofOption .number payment.feeMsat),
    ("payment_hash", .string payment.paymentHash),
    ("failure_reason", .ofOption .string payment.failureReason),
    ("real_regtest_lightning", .bool true)]

namespace Db

/-! ## Queries -/

/-- `where id = $1`. -/
def findPayment (db : Db) (id : String) : Option PaymentRow :=
  lookup (fun row : PaymentRow => row.id) id db.outgoingPayments

/-- `where project_id = $1 and idempotency_key = $2`. -/
def findPaymentByKey (db : Db) (projectId idempotencyKey : String) : Option PaymentRow :=
  lookup (fun row : PaymentRow => (row.projectId, row.idempotencyKey)) (projectId, idempotencyKey)
    db.outgoingPayments

def getPayment (db : Db) (projectId id : String) : Except StorageError PaymentRecord :=
  (fetchOne (db.outgoingPayments.find? fun row => row.projectId = projectId ∧ row.id = id)).map
    (·.toPaymentRecord)

/-- `status in ('created', 'pending', 'unknown')`. -/
def Unresolved (row : PaymentRow) : Prop := row.status.isFinal = false

instance : DecidablePred Unresolved := fun row =>
  inferInstanceAs (Decidable (row.status.isFinal = false))

/-- Payments that are not final, oldest first. -/
def unresolvedPayments (db : Db) : List PaymentRecord :=
  ((db.outgoingPayments.filter fun row => Unresolved row).insertionSort
    fun first second => first.createdAt ≤ second.createdAt).map (·.toPaymentRecord)

/-- The unresolved rows of a payment hash. -/
def unresolvedByHash (db : Db) (paymentHash : String) : List PaymentRow :=
  db.outgoingPayments.filter fun row => row.paymentHash = paymentHash ∧ Unresolved row

/-- The newest unresolved payment of a hash. Rows created at one instant are in
no order: `tie` is the identifier of the one the scan meets first. -/
def findUnresolvedPaymentByHash (db : Db) (paymentHash tie : String) : Option PaymentRecord :=
  let latest := newest (fun row : PaymentRow => row.createdAt) (db.unresolvedByHash paymentHash)
  ((latest.find? fun row => row.id = tie).or latest.head?).map (·.toPaymentRecord)

theorem getPayment_eq_ok {db : Db} {projectId id : String} {payment : PaymentRecord}
    (found : db.getPayment projectId id = .ok payment) :
    ∃ row ∈ db.outgoingPayments, row.toPaymentRecord = payment := by
  obtain ⟨row, fetched, same⟩ := Except.exists_of_map_eq_ok found
  exact ⟨row, List.mem_of_find?_eq_some (fetchOne_eq_ok.mp fetched), same⟩

theorem mem_unresolvedPayments {db : Db} {payment : PaymentRecord}
    (member : payment ∈ db.unresolvedPayments) :
    ∃ row ∈ db.outgoingPayments, row.toPaymentRecord = payment := by
  obtain ⟨row, sorted, same⟩ := List.mem_map.mp member
  rw [List.mem_insertionSort] at sorted
  exact ⟨row, (List.mem_filter.mp sorted).1, same⟩

theorem mem_unresolvedByHash {db : Db} {paymentHash : String} {row : PaymentRow} :
    row ∈ db.unresolvedByHash paymentHash ↔
      row ∈ db.outgoingPayments ∧ row.paymentHash = paymentHash ∧ row.status.isFinal = false := by
  rw [unresolvedByHash, List.mem_filter, decide_eq_true_iff]
  rfl

/-- The payment the query picks is a newest unresolved row of the hash. -/
theorem findUnresolvedPaymentByHash_some {db : Db} {paymentHash tie : String}
    {payment : PaymentRecord}
    (found : db.findUnresolvedPaymentByHash paymentHash tie = some payment) :
    ∃ row, IsNewest (fun row : PaymentRow => row.createdAt) (db.unresolvedByHash paymentHash) row ∧
      row.toPaymentRecord = payment := by
  obtain ⟨row, picked, same⟩ := Option.map_eq_some_iff.mp found
  refine ⟨row, mem_newest.mp ?_, same⟩
  rcases Option.or_eq_some_iff.mp picked with first | ⟨-, head⟩
  · exact List.mem_of_find?_eq_some first
  · exact List.mem_of_mem_head? head

/-- Of rows created at one instant the query picks the one the scan meets first. -/
theorem findUnresolvedPaymentByHash_tie {db : Db} {paymentHash : String} {row : PaymentRow}
    (latest : IsNewest (fun row : PaymentRow => row.createdAt) (db.unresolvedByHash paymentHash)
      row) {payment : PaymentRecord}
    (found : db.findUnresolvedPaymentByHash paymentHash row.id = some payment) :
    payment.id = row.id := by
  obtain ⟨picked, one, rfl⟩ := Option.map_eq_some_iff.mp found
  rcases Option.or_eq_some_iff.mp one with first | ⟨missing, -⟩
  · simpa using List.find?_some first
  · have here := List.find?_eq_none.mp missing row (mem_newest.mpr latest)
    simp at here

theorem findUnresolvedPaymentByHash_none {db : Db} {paymentHash tie : String} :
    db.findUnresolvedPaymentByHash paymentHash tie = none ↔
      db.unresolvedByHash paymentHash = [] := by
  constructor
  · intro missing
    refine List.eq_nil_iff_forall_not_mem.mpr fun row member => ?_
    obtain ⟨last, newest⟩ := exists_isNewest (fun row : PaymentRow => row.createdAt) row member
    obtain ⟨-, headless⟩ := Option.or_eq_none_iff.mp (Option.map_eq_none_iff.mp missing)
    rw [List.head?_eq_none_iff] at headless
    exact List.not_mem_nil (headless ▸ mem_newest.mpr newest)
  · intro empty
    simp only [findUnresolvedPaymentByHash, empty, newest, List.filter_nil, List.find?_nil,
      List.head?_nil, Option.or_none, Option.map_none]

/-! ## `begin_payment` -/

/-- The row the insert adds. -/
def createdRow (now : DateTime) (new : NewPayment) : PaymentRow where
  id := new.id
  projectId := new.projectId
  idempotencyKey := new.idempotencyKey
  bolt11 := new.bolt11
  paymentHash := new.paymentHash
  amountMsat := new.amountMsat
  feeMsat := none
  status := .created
  failureReason := none
  preimage := none
  metadata := new.metadata
  createdAt := now
  updatedAt := now
  requestHash := new.requestHash

/-- `insert … on conflict (project_id, idempotency_key) do nothing returning …`:
the checks of the table come first, then the idempotency key, then the primary
key. -/
def insertPayment (row : PaymentRow) (tx : Db) : Except StorageError (Option PaymentRow × Db) :=
  if row.amountMsat ≤ 0 then .error (.database "outgoing_payments_amount_msat_check")
  else if (tx.findPaymentByKey row.projectId row.idempotencyKey).isSome then .ok (none, tx)
  else if (tx.findPayment row.id).isSome then .error .conflict
  else .ok (some row, { tx with outgoingPayments := tx.outgoingPayments ++ [row] })

def beginPayment (now : DateTime) (new : NewPayment) :
    Db → Except StorageError BeginOutcome × Db :=
  transaction fun tx => do
    let _ ← toI64 new.amountMsat
    let (inserted, tx) ← insertPayment (createdRow now new) tx
    match inserted with
    | some payment => return .commit ⟨payment.toPaymentRecord, true⟩ tx
    | none => do
      let existing ← fetchOne (tx.findPaymentByKey new.projectId new.idempotencyKey)
      if existing.requestHash ≠ new.requestHash then
        .error .idempotencyMismatch
      else
        return .drop ⟨existing.toPaymentRecord, false⟩

/-! ## `transition_payment` -/

/-- The `set` list of the update: a resolution overwrites what it has. -/
def resolvedRow (now : DateTime) (next : PaymentStatus) (fee : Option ℤ) (resolution : Resolution)
    (row : PaymentRow) : PaymentRow :=
  { row with
    status := next
    updatedAt := now
    feeMsat := fee.or row.feeMsat
    failureReason := resolution.failureReason.or row.failureReason
    preimage := resolution.preimage.or row.preimage }

section ResolvedRow

variable (now : DateTime) (next : PaymentStatus) (fee : Option ℤ) (resolution : Resolution)
  (row : PaymentRow)

@[simp] theorem resolvedRow_id : (resolvedRow now next fee resolution row).id = row.id := rfl

@[simp] theorem resolvedRow_status :
    (resolvedRow now next fee resolution row).status = next := rfl

@[simp] theorem resolvedRow_paymentHash :
    (resolvedRow now next fee resolution row).paymentHash = row.paymentHash := rfl

@[simp] theorem resolvedRow_projectId :
    (resolvedRow now next fee resolution row).projectId = row.projectId := rfl

@[simp] theorem resolvedRow_idempotencyKey :
    (resolvedRow now next fee resolution row).idempotencyKey = row.idempotencyKey := rfl

@[simp] theorem resolvedRow_requestHash :
    (resolvedRow now next fee resolution row).requestHash = row.requestHash := rfl

@[simp] theorem resolvedRow_createdAt :
    (resolvedRow now next fee resolution row).createdAt = row.createdAt := rfl

end ResolvedRow

/-- The claim of the dedupe key, when the caller gives one. -/
def claimOutcome (now : DateTime) (dedupeKey : Option String) (paymentId : String)
    (next : PaymentStatus) (tx : Db) : Bool × Db :=
  match dedupeKey with
  | none => (true, tx)
  | some key =>
      claimNodeEvent now key "payment_outcome"
        (.object [("payment_id", .string paymentId), ("status", .string next.asStr)]) tx

/-- `matches!(next, Succeeded | Failed | Unknown)`. -/
def notifies : PaymentStatus → Bool
  | .succeeded | .failed | .unknown => true
  | .created | .pending => false

/-- The event of a move, for the statuses that have one. -/
def emitMoved (now : DateTime) (next : PaymentStatus) (updated : PaymentRow) (tx : Db) : Db :=
  if notifies next then
    tx.emit now updated.projectId ("payment." ++ next.asStr) updated.id
      (paymentEventData updated.toPaymentRecord) false
  else tx

def transitionPayment (now : DateTime) (dedupeKey : Option String) (paymentId : String)
    (next : PaymentStatus) (resolution : Resolution) : Db → Except StorageError Transitioned × Db :=
  transaction fun tx => do
    let current ← fetchOne (tx.findPayment paymentId)
    let (claimed, tx) := claimOutcome now dedupeKey paymentId next tx
    if claimed = false then
      return .drop ⟨current.toPaymentRecord, false⟩
    else if current.status = next then
      return .drop ⟨current.toPaymentRecord, false⟩
    else if current.status.canTransitionTo next = false then
      .error (.illegalTransition current.status.asStr next.asStr)
    else do
      let fee ← toI64Option resolution.feeMsat
      let set := resolvedRow now next fee resolution
      let tx := { tx with
        outgoingPayments := updateWhere (fun row => row.id = paymentId) set tx.outgoingPayments }
      return .commit ⟨(set current).toPaymentRecord, true⟩ (tx.emitMoved now next (set current))

/-! ## What a call of `beginPayment` does -/

/-- The table with one more payment. -/
def withPayment (row : PaymentRow) (tx : Db) : Db :=
  { tx with outgoingPayments := tx.outgoingPayments ++ [row] }

/-- The exits of `beginPayment`: its answer and the database it leaves. -/
inductive Begun (now : DateTime) (new : NewPayment) (db : Db) :
    Except StorageError BeginOutcome → Db → Prop where
  | inserted (fits : new.amountMsat ≤ i64Max) (positive : 0 < new.amountMsat)
      (keyFree : db.findPaymentByKey new.projectId new.idempotencyKey = none)
      (idFree : db.findPayment new.id = none) :
      Begun now new db (.ok ⟨(createdRow now new).toPaymentRecord, true⟩)
        (db.withPayment (createdRow now new))
  | existing (row : PaymentRow)
      (found : db.findPaymentByKey new.projectId new.idempotencyKey = some row)
      (same : row.requestHash = new.requestHash) :
      Begun now new db (.ok ⟨row.toPaymentRecord, false⟩) db
  | mismatch (row : PaymentRow)
      (found : db.findPaymentByKey new.projectId new.idempotencyKey = some row)
      (differs : row.requestHash ≠ new.requestHash) :
      Begun now new db (.error .idempotencyMismatch) db
  | outOfRange (invalid : i64Max < new.amountMsat ∨ new.amountMsat = 0) (error : StorageError)
      (reason : error ≠ .idempotencyMismatch) :
      Begun now new db (.error error) db
  | taken (keyFree : db.findPaymentByKey new.projectId new.idempotencyKey = none)
      (row : PaymentRow) (found : db.findPayment new.id = some row) :
      Begun now new db (.error .conflict) db

theorem beginPayment_begun {now : DateTime} {new : NewPayment} {db after : Db}
    {answer : Except StorageError BeginOutcome}
    (call : beginPayment now new db = (answer, after)) : Begun now new db answer after := by
  have project : (createdRow now new).projectId = new.projectId := rfl
  have idempotency : (createdRow now new).idempotencyKey = new.idempotencyKey := rfl
  have identifier : (createdRow now new).id = new.id := rfl
  have amount : (createdRow now new).amountMsat = new.amountMsat := rfl
  simp only [beginPayment, transaction, insertPayment, bind, Except.bind, pure, Except.pure,
    project, idempotency, identifier, amount] at call
  by_cases fits : new.amountMsat ≤ i64Max
  · simp only [toI64, if_pos fits] at call
    by_cases positive : 0 < new.amountMsat
    · have checked : ¬ ((new.amountMsat : ℤ) ≤ 0) := by omega
      simp only [if_neg checked] at call
      cases found : db.findPaymentByKey new.projectId new.idempotencyKey with
      | none =>
          cases taken : db.findPayment new.id with
          | none =>
              simp only [found, taken, Option.isSome_none, Bool.false_eq_true, if_false] at call
              cases call
              exact .inserted fits positive found taken
          | some row =>
              simp only [found, taken, Option.isSome_none, Option.isSome_some, Bool.false_eq_true,
                if_false, if_true] at call
              cases call
              exact .taken found row taken
      | some row =>
          simp only [found, Option.isSome_some, if_true, fetchOne] at call
          by_cases same : row.requestHash = new.requestHash
          · simp only [ne_eq, same, not_true, if_false] at call
            cases call
            exact .existing row found same
          · simp only [ne_eq, same, not_false_iff, if_true] at call
            cases call
            exact .mismatch row found same
    · have failed : (new.amountMsat : ℤ) ≤ 0 := by omega
      simp only [if_pos failed] at call
      cases call
      exact .outOfRange (.inr (by omega)) _ (by decide)
  · simp only [toI64, if_neg fits] at call
    cases call
    exact .outOfRange (.inl (by omega)) _ (by decide)

/-! ## What a call of `transitionPayment` does -/

/-- The claim is refused only for a key that was claimed before, and then it
changes nothing. -/
theorem claimOutcome_cases (now : DateTime) (dedupeKey : Option String) (paymentId : String)
    (next : PaymentStatus) (tx : Db) :
    (∃ key, dedupeKey = some key ∧ tx.Claimed key ∧
      claimOutcome now dedupeKey paymentId next tx = (false, tx)) ∨
    ((∀ key, dedupeKey = some key → ¬ tx.Claimed key) ∧
      (claimOutcome now dedupeKey paymentId next tx).1 = true) := by
  cases dedupeKey with
  | none =>
      refine .inr ⟨?_, rfl⟩
      intro key keyed
      cases keyed
  | some key =>
      by_cases claimed : tx.Claimed key
      · exact .inl ⟨key, rfl, claimed, claimNodeEvent_of_claimed claimed _ _ _⟩
      · refine .inr ⟨?_, ?_⟩
        · rintro _ ⟨⟩
          exact claimed
        · simp only [claimOutcome, claimNodeEvent_of_not_claimed claimed]

section ClaimOutcome

variable (now : DateTime) (dedupeKey : Option String) (paymentId : String) (next : PaymentStatus)
  (tx : Db)

/-- The claim writes the node events only. -/
theorem claimOutcome_snd : (claimOutcome now dedupeKey paymentId next tx).2 =
    { tx with nodeEvents := (claimOutcome now dedupeKey paymentId next tx).2.nodeEvents } := by
  cases dedupeKey with
  | none => rfl
  | some key =>
      simp only [claimOutcome, claimNodeEvent]
      split <;> rfl

/-- Under a new key or none, exactly the key becomes claimed. -/
theorem claimed_claimOutcome (unclaimed : ∀ key, dedupeKey = some key → ¬ tx.Claimed key)
    (other : String) : (claimOutcome now dedupeKey paymentId next tx).2.Claimed other ↔
      tx.Claimed other ∨ dedupeKey = some other := by
  cases dedupeKey with
  | none => simp only [claimOutcome, reduceCtorEq, or_false]
  | some key =>
      simp only [claimOutcome, claimNodeEvent_of_not_claimed (unclaimed key rfl),
        claimed_withNodeEvent, Option.some.injEq]

end ClaimOutcome

section EmitMoved

variable (now : DateTime) (next : PaymentStatus) (updated : PaymentRow) (tx : Db)

@[simp] theorem emitMoved_outgoingPayments :
    (emitMoved now next updated tx).outgoingPayments = tx.outgoingPayments := by
  unfold emitMoved
  split <;> rfl

@[simp] theorem emitMoved_invoices :
    (emitMoved now next updated tx).invoices = tx.invoices := by
  unfold emitMoved
  split <;> rfl

@[simp] theorem emitMoved_nodeEvents :
    (emitMoved now next updated tx).nodeEvents = tx.nodeEvents := by
  unfold emitMoved
  split <;> rfl

@[simp] theorem emitMoved_webhookEndpoints :
    (emitMoved now next updated tx).webhookEndpoints = tx.webhookEndpoints := by
  unfold emitMoved
  split <;> rfl

@[simp] theorem emitMoved_sandboxPayouts :
    (emitMoved now next updated tx).sandboxPayouts = tx.sandboxPayouts := by
  unfold emitMoved
  split <;> rfl

@[simp] theorem emitMoved_sandboxQuotes :
    (emitMoved now next updated tx).sandboxQuotes = tx.sandboxQuotes := by
  unfold emitMoved
  split <;> rfl

@[simp] theorem emitMoved_sandboxBalances :
    (emitMoved now next updated tx).sandboxBalances = tx.sandboxBalances := by
  unfold emitMoved
  split <;> rfl

end EmitMoved

/-- The database after a move: the key is claimed, the row is rewritten and the
event is written. -/
def afterMove (now : DateTime) (dedupeKey : Option String) (next : PaymentStatus) (fee : Option ℤ)
    (resolution : Resolution) (row : PaymentRow) (tx : Db) : Db :=
  let set := resolvedRow now next fee resolution
  let tx := (claimOutcome now dedupeKey row.id next tx).2
  { tx with
    outgoingPayments := updateWhere (fun old => old.id = row.id) set tx.outgoingPayments }.emitMoved
    now next (set row)

section AfterMove

variable (now : DateTime) (dedupeKey : Option String) (next : PaymentStatus) (fee : Option ℤ)
  (resolution : Resolution) (row : PaymentRow) (tx : Db)

@[simp] theorem afterMove_outgoingPayments :
    (afterMove now dedupeKey next fee resolution row tx).outgoingPayments =
      updateWhere (fun old => old.id = row.id) (resolvedRow now next fee resolution)
        tx.outgoingPayments := by
  simp only [afterMove, emitMoved_outgoingPayments]
  rw [claimOutcome_snd]

@[simp] theorem afterMove_invoices :
    (afterMove now dedupeKey next fee resolution row tx).invoices = tx.invoices := by
  simp only [afterMove, emitMoved_invoices]
  rw [claimOutcome_snd]

@[simp] theorem afterMove_webhookEndpoints :
    (afterMove now dedupeKey next fee resolution row tx).webhookEndpoints =
      tx.webhookEndpoints := by
  simp only [afterMove, emitMoved_webhookEndpoints]
  rw [claimOutcome_snd]

@[simp] theorem afterMove_sandboxPayouts :
    (afterMove now dedupeKey next fee resolution row tx).sandboxPayouts =
      tx.sandboxPayouts := by
  simp only [afterMove, emitMoved_sandboxPayouts]
  rw [claimOutcome_snd]

@[simp] theorem afterMove_sandboxQuotes :
    (afterMove now dedupeKey next fee resolution row tx).sandboxQuotes = tx.sandboxQuotes := by
  simp only [afterMove, emitMoved_sandboxQuotes]
  rw [claimOutcome_snd]

@[simp] theorem afterMove_sandboxBalances :
    (afterMove now dedupeKey next fee resolution row tx).sandboxBalances =
      tx.sandboxBalances := by
  simp only [afterMove, emitMoved_sandboxBalances]
  rw [claimOutcome_snd]

/-- Exactly the key of a move becomes claimed. -/
theorem claimed_afterMove (unclaimed : ∀ key, dedupeKey = some key → ¬ tx.Claimed key)
    (other : String) : (afterMove now dedupeKey next fee resolution row tx).Claimed other ↔
      tx.Claimed other ∨ dedupeKey = some other := by
  simp only [Claimed, afterMove, emitMoved_nodeEvents]
  exact claimed_claimOutcome now dedupeKey row.id next tx unclaimed other

end AfterMove

/-- The exits of `transitionPayment`: its answer and the database it leaves. -/
inductive Moved (now : DateTime) (dedupeKey : Option String) (paymentId : String)
    (next : PaymentStatus) (resolution : Resolution) (db : Db) :
    Except StorageError Transitioned → Db → Prop where
  | missing (absent : db.findPayment paymentId = none) :
      Moved now dedupeKey paymentId next resolution db (.error .notFound) db
  | replayed (row : PaymentRow) (found : db.findPayment paymentId = some row) (key : String)
      (keyed : dedupeKey = some key) (claimed : db.Claimed key) :
      Moved now dedupeKey paymentId next resolution db (.ok ⟨row.toPaymentRecord, false⟩) db
  | repeated (row : PaymentRow) (found : db.findPayment paymentId = some row)
      (same : row.status = next) :
      Moved now dedupeKey paymentId next resolution db (.ok ⟨row.toPaymentRecord, false⟩) db
  | illegal (row : PaymentRow) (found : db.findPayment paymentId = some row)
      (illegal : row.status.canTransitionTo next = false) :
      Moved now dedupeKey paymentId next resolution db
        (.error (.illegalTransition row.status.asStr next.asStr)) db
  | outOfRange (row : PaymentRow) (found : db.findPayment paymentId = some row)
      (legal : row.status.canTransitionTo next = true) (fee : ℕ)
      (given : resolution.feeMsat = some fee) (large : i64Max < fee) :
      Moved now dedupeKey paymentId next resolution db (.error .amountOutOfRange) db
  | moved (row : PaymentRow) (found : db.findPayment paymentId = some row)
      (unclaimed : ∀ key, dedupeKey = some key → ¬ db.Claimed key)
      (legal : row.status.canTransitionTo next = true) (fee : Option ℤ)
      (fits : toI64Option resolution.feeMsat = .ok fee) :
      Moved now dedupeKey paymentId next resolution db
        (.ok ⟨(resolvedRow now next fee resolution row).toPaymentRecord, true⟩)
        (db.afterMove now dedupeKey next fee resolution row)

theorem transitionPayment_moved {now : DateTime} {dedupeKey : Option String} {paymentId : String}
    {next : PaymentStatus} {resolution : Resolution} {db after : Db}
    {answer : Except StorageError Transitioned}
    (call : transitionPayment now dedupeKey paymentId next resolution db = (answer, after)) :
    Moved now dedupeKey paymentId next resolution db answer after := by
  simp only [transitionPayment, transaction, bind, Except.bind, pure, Except.pure] at call
  cases found : db.findPayment paymentId with
  | none =>
      simp only [found, fetchOne] at call
      cases call
      exact .missing found
  | some row =>
      obtain ⟨-, rfl⟩ := lookup_some found
      simp only [found, fetchOne] at call
      rcases claimOutcome_cases now dedupeKey row.id next db with
        ⟨key, keyed, claimed, refused⟩ | ⟨unclaimed, granted⟩
      · simp only [refused, if_true] at call
        cases call
        exact .replayed row found key keyed claimed
      · simp only [granted, Bool.true_eq_false, if_false] at call
        by_cases same : row.status = next
        · simp only [if_pos same] at call
          cases call
          exact .repeated row found same
        · simp only [if_neg same] at call
          cases legal : row.status.canTransitionTo next with
          | false =>
              simp only [legal, if_true] at call
              cases call
              exact .illegal row found legal
          | true =>
              simp only [legal, Bool.true_eq_false, if_false] at call
              cases fits : toI64Option resolution.feeMsat with
              | error error =>
                  simp only [fits] at call
                  obtain ⟨fee, given, large, rfl⟩ := toI64Option_eq_error fits
                  cases call
                  exact .outOfRange row found legal fee given large
              | ok fee =>
                  simp only [fits] at call
                  cases call
                  exact .moved row found unclaimed legal fee fits

/-- The payment a successful call returns is the one it was asked to move. -/
theorem transitionPayment_id {now : DateTime} {dedupeKey : Option String} {paymentId : String}
    {next : PaymentStatus} {resolution : Resolution} {db after : Db} {transitioned : Transitioned}
    (call : transitionPayment now dedupeKey paymentId next resolution db =
      (.ok transitioned, after)) : transitioned.payment.id = paymentId := by
  cases transitionPayment_moved call with
  | replayed row found key keyed claimed => exact (lookup_some found).2
  | repeated row found same => exact (lookup_some found).2
  | moved row found unclaimed legal fee fits => exact (lookup_some found).2

end Db

end Safrod

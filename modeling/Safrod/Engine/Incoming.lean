import Safrod.Engine.Progress
import Safrod.Storage.InvoiceHistory

/-!
# Payments received

A payment the node received for a stored invoice is acknowledged once the invoice
is paid (`received_payment_credited`), in every run in which the handler does not
meet an invoice that the expiry task was faster to close (`NotExpired`).

`acknowledged_after_expiry` is a run in which it does.
-/

set_option autoImplicit false

namespace Safrod

open Table Db

/-- The invoice of a payment hash is paid. -/
def Paid (db : Db) (paymentHash : String) : Prop :=
  ∃ row, db.findInvoiceByHash paymentHash = some row ∧ row.status = .paid

/-- The handler of a payment for a stored invoice does not find it expired. -/
def NotExpired (world : World) : Action → Prop
  | .act task (.receive _) => ∀ paymentHash amountMsat,
      world.tasks task = .event (.paymentReceived paymentHash amountMsat) true .handle →
      ∀ row, world.db.findInvoiceByHash paymentHash = some row → row.status ≠ .expired
  | _ => True

/-! ## What an event in progress may rely on -/

/-- The invoice of a payment that was received for a stored invoice is stored, and
paid from the moment the event may be acknowledged. -/
def Task.Credited (db : Db) : Task → Prop
  | .event (.paymentReceived paymentHash _) true phase =>
      (∃ row, db.findInvoiceByHash paymentHash = some row) ∧
        ∀ result, phase = .handled result → acknowledges result = true → Paid db paymentHash
  | _ => True

/-- The invoices, the dedupe keys, the events in progress and the log agree on
what was received. -/
structure Credits (world : World) : Prop where
  paid : ∀ row ∈ world.db.invoices, row.status = .paid → ∃ amountMsat : ℕ,
    Entry.delivered (.paymentReceived row.paymentHash amountMsat) ∈ world.log ∧
      row.amountReceivedMsat = some (amountMsat : ℤ)
  claimed : ∀ paymentHash, world.db.Claimed (receivedKey paymentHash) → Paid world.db paymentHash
  tasks : ∀ task, (world.tasks task).Credited world.db
  acknowledged : ∀ paymentHash amountMsat,
    Entry.acknowledged (.paymentReceived paymentHash amountMsat) true ∈ world.log →
      Paid world.db paymentHash

section Lasting

variable {db after : Db}

/-- The invoices of one database in a later one. -/
def InvoicesLater (db after : Db) : Prop :=
  ∀ paymentHash row, db.findInvoiceByHash paymentHash = some row →
    ∃ later, after.findInvoiceByHash paymentHash = some later ∧
      (row.status = .paid → later = row)

theorem invoicesLater_of_performed
    (unique : KeyUnique (fun row : InvoiceRow => row.id) db.invoices)
    (performed : after = db ∨ ∃ call, after = db.perform call) : InvoicesLater db after := by
  intro paymentHash row found
  rcases performed with rfl | ⟨call, rfl⟩
  · exact ⟨row, found, fun _ => rfl⟩
  · exact (perform_performed call db).invoices.lasts unique found

theorem Paid.lasts {paymentHash : String} (paid : Paid db paymentHash)
    (later : InvoicesLater db after) : Paid after paymentHash := by
  obtain ⟨row, found, status⟩ := paid
  obtain ⟨next, foundNext, same⟩ := later paymentHash row found
  rw [← same status] at status
  exact ⟨next, foundNext, status⟩

theorem Task.Credited.lasts {task : Task} (credited : task.Credited db)
    (later : InvoicesLater db after) : task.Credited after := by
  cases task with
  | event event known phase =>
      cases known with
      | false =>
          cases event <;> trivial
      | true =>
          cases event with
          | paymentReceived paymentHash amountMsat =>
              obtain ⟨⟨row, found⟩, paid⟩ := credited
              obtain ⟨next, foundNext, -⟩ := later paymentHash row found
              refine ⟨⟨next, foundNext⟩, ?_⟩
              intro result handled ends
              exact (paid result handled ends).lasts later
          | _ => trivial
  | _ => trivial

end Lasting

/-! ## Steps -/

theorem not_received_of_outcome {event : NodeEvent} {outcome : EventOutcome}
    (resolves : outcomeOf event = some outcome) :
    ∀ paymentHash amountMsat, event ≠ .paymentReceived paymentHash amountMsat := by
  rintro paymentHash amountMsat rfl
  cases resolves

theorem Task.credited_of_not_received {db : Db} {event : NodeEvent} {known : Bool}
    {phase : EventPhase}
    (notReceived : ∀ paymentHash amountMsat, event ≠ .paymentReceived paymentHash amountMsat) :
    (Task.event event known phase).Credited db := by
  cases event with
  | paymentReceived paymentHash amountMsat => exact absurd rfl (notReceived _ _)
  | _ => cases known <;> trivial

theorem reconcileNext_credited {db : Db} (open_ : List PaymentRecord) :
    (reconcileNext open_).Credited db := by
  induction open_ with
  | nil => trivial
  | cons payment rest ih =>
      simp only [reconcileNext]
      split
      · exact ih
      · trivial

/-- After a call of `markInvoicePaid` that lets the event be acknowledged, the
stored invoice is paid. -/
theorem paid_of_credited {now : DateTime} {paymentHash : String} {amountMsat : ℕ} {db after : Db}
    {answer : Except StorageError (Option InvoiceRecord)}
    (credited : Credited now (receivedKey paymentHash) paymentHash amountMsat db answer after)
    {row : InvoiceRow} (found : db.findInvoiceByHash paymentHash = some row)
    (notExpired : row.status ≠ .expired)
    (claimed : db.Claimed (receivedKey paymentHash) → Paid db paymentHash)
    (ends : acknowledges (eventResult answer) = true) : Paid after paymentHash := by
  cases credited with
  | replayed here => exact claimed here
  | missing unclaimed absent => cases absent.symm.trans found
  | alreadyPaid unclaimed row' here paid => exact ⟨row', here, paid⟩
  | illegal unclaimed row' here expired =>
      cases here.symm.trans found
      exact absurd expired notExpired
  | outOfRange unclaimed row' here stillOpen large => cases ends
  | credited unclaimed row' here stillOpen fits =>
      exact ⟨_, findInvoiceByHash_of_set here rfl fun _ => rfl, by rw [if_pos rfl]; rfl⟩

section Steps

variable {env : Env} {world : World} {task : ℕ} {action : TaskAction} {outcome : Outcome}

theorem Credits.task_next (credits : Credits world)
    (acted : Acted env world.db (world.tasks task) action outcome)
    (sound : world.Sound env) (met : NotExpired world (.act task action))
    (later : InvoicesLater world.db outcome.db) : outcome.task.Credited outcome.db := by
  have before := credits.tasks task
  have held := sound.tasks task
  generalize here : world.tasks task = current at acted before held
  cases acted with
  | delivered event =>
      cases event with
      | paymentReceived paymentHash amountMsat =>
          cases known : concernsStored world.db (.paymentReceived paymentHash amountMsat) with
          | false => trivial
          | true =>
              refine ⟨Option.isSome_iff_exists.mp known, ?_⟩
              intro result handled
              cases handled
      | _ => trivial
  | received paymentHash amountMsat known now answer after call =>
      cases known with
      | false => trivial
      | true =>
          obtain ⟨row, found⟩ := before.1
          obtain ⟨next, foundNext, -⟩ := later paymentHash row found
          refine ⟨⟨next, foundNext⟩, ?_⟩
          rintro _ ⟨⟩ ends
          exact paid_of_credited (markInvoicePaid_credited call) found
            (met paymentHash amountMsat here row found) (credits.claimed paymentHash) ends
  | ignored event known tie notReceived irrelevant =>
      exact Task.credited_of_not_received notReceived
  | unmatched event known tie resolving resolves missing =>
      exact Task.credited_of_not_received (not_received_of_outcome resolves)
  | picked event known tie resolving resolves payment found =>
      exact Task.credited_of_not_received (not_received_of_outcome resolves)
  | applyFailed event known resolving payment now error after call =>
      exact Task.credited_of_not_received (not_received_of_outcome held.2.1)
  | applied event known resolving payment now applied after call =>
      exact Task.credited_of_not_received (not_received_of_outcome held.2.1)
  | retried event known result ends =>
      cases event with
      | paymentReceived paymentHash amountMsat =>
          cases known with
          | false => trivial
          | true =>
              refine ⟨before.1, ?_⟩
              intro other handled
              cases handled
      | _ => cases known <;> trivial
  | reconciling | reconcilingAll | undecided | settled => exact reconcileNext_credited _
  | _ => trivial

/-- A paid row holds what was received. -/
theorem Credits.rows_next (credits : Credits world)
    (unique : KeyUnique (fun row : InvoiceRow => row.id) world.db.invoices)
    (sound : world.Sound env) {after : Db} {entries : List Entry}
    (wrote : Wrote (world.tasks task) world.db after entries) :
    ∀ row ∈ after.invoices, row.status = .paid → ∃ amountMsat : ℕ,
      Entry.delivered (.paymentReceived row.paymentHash amountMsat) ∈ world.log ∧
        row.amountReceivedMsat = some (amountMsat : ℤ) := by
  cases wrote with
  | nothing entries silent => exact credits.paid
  | begun projectId idempotencyKey request prepared begins now id keyFree idFree =>
      exact credits.paid
  | moved move moves now fee row found unclaimed legal entries recorded =>
      rw [afterMove_invoices]
      exact credits.paid
  | credited paymentHash amountMsat known receives now credited found stillOpen unclaimed =>
      intro row member paid
      obtain ⟨old, oldMember, updated⟩ := mem_updateWhere.mp member
      split at updated
      · rename_i same
        obtain ⟨creditedMember, hash⟩ := lookup_some found
        have one : old = credited := unique.eq_of_key oldMember creditedMember same
        subst updated
        have held := sound.tasks task
        rw [receives] at held
        refine ⟨amountMsat, ?_, rfl⟩
        rw [show (paidRow now amountMsat old).paymentHash = paymentHash from one ▸ hash]
        exact held.1
      · subst updated
        exact credits.paid old oldMember paid

/-- The key of a received payment is claimed by the commit that pays the invoice. -/
theorem Credits.claimed_next (credits : Credits world) (sound : world.Sound env) {after : Db}
    {entries : List Entry} (wrote : Wrote (world.tasks task) world.db after entries)
    (later : InvoicesLater world.db after) (paymentHash : String)
    (claimed : after.Claimed (receivedKey paymentHash)) : Paid after paymentHash := by
  cases wrote with
  | nothing entries silent => exact credits.claimed paymentHash claimed
  | begun projectId idempotencyKey request prepared begins now id keyFree idFree =>
      exact (credits.claimed paymentHash claimed).lasts later
  | moved move moves now fee row found unclaimed legal entries recorded =>
      obtain ⟨-, rowId⟩ := lookup_some found
      rcases (claimed_afterMove now move.dedupeKey move.next fee move.resolution row world.db
        unclaimed _).mp claimed with before | keyed
      · exact (credits.claimed paymentHash before).lasts later
      · obtain ⟨event, resolving, resolves, same, -⟩ :=
          (sound.tasks task).move_dedupeKey moves keyed
        exact absurd same (receivedKey_ne_dedupeKey resolves paymentHash move.paymentId)
  | credited hash amountMsat known receives now credited found stillOpen unclaimed =>
      rcases claimed_withNodeEvent.mp claimed with before | same
      · exact (credits.claimed paymentHash before).lasts later
      · rw [← receivedKey_inj same]
        exact ⟨_, findInvoiceByHash_of_set found rfl fun _ => rfl, by rw [if_pos rfl]; rfl⟩

theorem Credits.acted (credits : Credits world)
    (unique : KeyUnique (fun row : InvoiceRow => row.id) world.db.invoices)
    (sound : world.Sound env) (acted : Acted env world.db (world.tasks task) action outcome)
    (met : NotExpired world (.act task action)) : Credits (world.put task outcome) := by
  have later := invoicesLater_of_performed unique acted.perform
  have wrote := acted.wrote
  refine ⟨?_, ?_, ?_, ?_⟩
  · intro row member paid
    obtain ⟨amountMsat, delivered, recorded⟩ :=
      credits.rows_next unique sound wrote row member paid
    exact ⟨amountMsat, List.mem_append_right _ delivered, recorded⟩
  · exact credits.claimed_next sound wrote later
  · intro other
    rw [World.put_tasks]
    split
    · exact credits.task_next acted sound met later
    · exact (credits.tasks other).lasts later
  · intro paymentHash amountMsat member
    refine Paid.lasts ?_ later
    rcases List.mem_append.mp member with new | old
    · obtain ⟨result, here, ends⟩ := acted.acknowledges new
      have held := credits.tasks task
      rw [here] at held
      exact held.2 result rfl ends
    · exact credits.acknowledged paymentHash amountMsat old

/-- The calls of other routes neither receive nor acknowledge. -/
theorem Credits.called (credits : Credits world)
    (unique : KeyUnique (fun row : InvoiceRow => row.id) world.db.invoices) {call : Call}
    (other : call.isEngine = false) :
    Credits { world with db := world.db.perform call } := by
  have routed := perform_routed other world.db
  have later : InvoicesLater world.db (world.db.perform call) :=
    invoicesLater_of_performed unique (.inr ⟨call, rfl⟩)
  refine ⟨?_, ?_, ?_, ?_⟩
  · intro row member paid
    cases routed.invoices with
    | same kept =>
        rw [kept] at member
        exact credits.paid row member paid
    | inserted now new fresh added =>
        rw [added] at member
        rcases List.mem_append.mp member with old | inserted
        · exact credits.paid row old paid
        · rw [List.mem_singleton.mp inserted] at paid
          cases paid
    | expired now set =>
        rw [set] at member
        obtain ⟨old, oldMember, updated⟩ := mem_updateWhere.mp member
        split at updated
        · subst updated
          cases paid
        · subst updated
          exact credits.paid old oldMember paid
  · intro paymentHash claimed
    have before : world.db.Claimed (receivedKey paymentHash) := by
      rw [Claimed, ← routed.nodeEvents]
      exact claimed
    exact (credits.claimed paymentHash before).lasts later
  · intro task
    exact (credits.tasks task).lasts later
  · intro paymentHash amountMsat member
    exact (credits.acknowledged paymentHash amountMsat member).lasts later

end Steps

/-! ## Runs -/

theorem credits_of_reachableBy {env : Env} {world : World}
    (reached : (daemon env).ReachableBy NotExpired world) : Credits world := by
  refine reached.invariant Credits ?_ ?_
  · rintro _ rfl
    refine ⟨?_, ?_, fun _ => trivial, ?_⟩
    · intro row member
      cases member
    · rintro paymentHash ⟨event, member, -⟩
      cases member
    · intro paymentHash amountMsat member
      cases member
  · intro world action next earlier credits met step
    have unique := invoiceIds_of_reachable (storage_reachable earlier)
    cases stepped_of_step step with
    | acted task action outcome acted =>
        exact credits.acted unique (sound_of_reachable earlier) acted met
    | crashed => exact ⟨credits.paid, credits.claimed, fun _ => trivial, credits.acknowledged⟩
    | called call other => exact credits.called unique other

/-- **A payment received for a stored invoice is credited.** In every run in which
the handler finds no such invoice expired: once the event of a payment whose
invoice was stored when the node delivered it is acknowledged, the invoice is
paid, with an amount that the node delivered for it. -/
theorem received_payment_credited {env : Env} {world : World}
    (reached : (daemon env).ReachableBy NotExpired world) :
    ∀ paymentHash amountMsat,
      Entry.acknowledged (.paymentReceived paymentHash amountMsat) true ∈ world.log →
      ∃ (row : InvoiceRow) (received : ℕ),
        world.db.findInvoiceByHash paymentHash = some row ∧ row.status = .paid ∧
        row.amountReceivedMsat = some (received : ℤ) ∧
        Entry.delivered (.paymentReceived paymentHash received) ∈ world.log := by
  intro paymentHash amountMsat member
  have credits := credits_of_reachableBy reached
  obtain ⟨row, found, paid⟩ := credits.acknowledged paymentHash amountMsat member
  obtain ⟨rowMember, hash⟩ := lookup_some found
  obtain ⟨received, delivered, recorded⟩ := credits.paid row rowMember paid
  rw [hash] at delivered
  exact ⟨row, received, found, paid, recorded, delivered⟩

/-- The invoice of a merchant, stored when it was made. -/
def regtestNewInvoice : NewInvoice where
  id := "inv_1"
  projectId := "prj_1"
  idempotencyKey := none
  amountMsat := 5_000_000
  description := "x"
  bolt11 := regtestBolt11
  paymentHash := regtestInvoice.paymentHash
  expiresAt := 1_700_003_600_000_000
  metadata := .object []

def regtestReceived : NodeEvent := .paymentReceived regtestInvoice.paymentHash 5_000_000

/-- The node delivers a payment for the invoice, and the handler is in time. -/
def creditedActions : List Action :=
  [.call (.insertInvoice regtestMade regtestNewInvoice),
    .act 0 (.deliver regtestReceived), .act 0 (.receive 1_700_003_599_000_000),
    .call (.expireInvoices 1_700_003_600_000_001), .act 0 .acknowledge]

theorem received_payment_credited_paid : ∃ world,
    (daemon regtest).run {} creditedActions = some world ∧ ∃ (row : InvoiceRow) (received : ℕ),
      world.db.findInvoiceByHash regtestInvoice.paymentHash = some row ∧ row.status = .paid ∧
      row.amountReceivedMsat = some (received : ℤ) ∧
      Entry.delivered (.paymentReceived regtestInvoice.paymentHash received) ∈ world.log := by
  have ran : (daemon regtest).run {} creditedActions = some _ := rfl
  refine ⟨_, ran, received_payment_credited (Machine.reachableBy_of_run (.start rfl) ?_ ran)
    regtestInvoice.paymentHash 5_000_000 (.head _)⟩
  refine .cons trivial rfl (.cons trivial rfl (.cons ?_ rfl (.cons trivial rfl
    (.cons trivial rfl (.nil _)))))
  -- when the handler looks, the invoice is open
  rintro paymentHash amountMsat ⟨⟩ row ⟨⟩
  decide

/-- The same, and the expiry task is faster than the handler. -/
def expiredActions : List Action :=
  [.call (.insertInvoice regtestMade regtestNewInvoice),
    .act 0 (.deliver regtestReceived), .call (.expireInvoices 1_700_003_600_000_001),
    .act 0 (.receive 1_700_003_600_000_002), .act 0 .acknowledge]

theorem acknowledged_after_expiry : ∃ world, (daemon regtest).Reachable world ∧
    Entry.acknowledged regtestReceived true ∈ world.log ∧
    (world.db.findInvoiceByHash regtestInvoice.paymentHash).map (fun row => row.status) =
      some .expired ∧
    (world.db.findInvoiceByHash regtestInvoice.paymentHash).map
      (fun row => row.amountReceivedMsat) = some none := by
  have ran : (daemon regtest).run {} expiredActions = some _ := rfl
  exact ⟨_, Machine.reachable_of_run rfl ran, .head _, rfl, rfl⟩

end Safrod

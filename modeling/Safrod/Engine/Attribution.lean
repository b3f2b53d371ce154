import Safrod.Engine.NodeLedger

/-!
# The payment of an outcome

Several requests may be paying one invoice when the node reports its outcome, and
the handler looks for the newest payment of the hash that is not final.
`outcome_attributed` is what holds when that is the payment the node accepted
(`OwnerFirst`): the outcome is applied to it and to no other, and it is final once
the event is acknowledged.

`outcome_dropped` is a run in which a newer request is found.
-/

set_option autoImplicit false

namespace Safrod

open Table Db

/-! ## One payment of a hash -/

/-- The node accepts one dispatch of the hash, and no payment is reconciled. -/
def OneAccepted (paymentHash : String) (system : System) : SystemAction → Prop
  | .daemon (.act _ (.reconcile _ _)) => False
  | .daemon (.act _ .reconcileAll) => False
  | .daemon (.act task (.dispatch (.ok _))) =>
      ∀ projectId idempotencyKey prepared payment pending, system.world.tasks task =
        .send projectId idempotencyKey (.dispatch prepared payment pending) →
      prepared.paymentHash = paymentHash → system.ledger.records paymentHash = none
  | _ => True

/-- Where the handler of an outcome looks for the payment, no other that is not
final is newer than the one that was sent, and that one is not final itself. Of two
created at one instant, the query meets it first. -/
def OwnerFirst (paymentHash : String) (system : System) : SystemAction → Prop
  | .daemon (.act task (.pick tie)) => ∀ event known outcome record,
      system.world.tasks task = .event event known .handle → outcomeOf event = some outcome →
      outcome.paymentHash = paymentHash → system.ledger.records paymentHash = some record →
      ∀ other ∈ system.world.db.unresolvedByHash paymentHash, other.id ≠ record.owner →
        ∃ sent ∈ system.world.db.unresolvedByHash paymentHash, sent.id = record.owner ∧
          other.createdAt ≤ sent.createdAt ∧ (other.createdAt = sent.createdAt → tie = sent.id)
  | _ => True

/-! ## What is known of the payment that was sent -/

/-- The record of the node has the outcome. -/
def Confirms (view : NodePaymentStatus) (next : PaymentStatus) : Prop :=
  (view = .succeeded ∧ next = .succeeded) ∨ (view = .failed ∧ next = .failed)

/-- The payment that was sent is pending, or has the outcome of the record. -/
def Agrees (view : NodePaymentStatus) (status : PaymentStatus) : Prop :=
  status = .pending ∨ Confirms view status

/-- A final payment has the outcome its record confirms. -/
theorem Agrees.eq_of_confirms {view : NodePaymentStatus} {status next : PaymentStatus}
    (agrees : Agrees view status) (final : status.isFinal = true) (confirms : Confirms view next) :
    status = next := by
  rcases agrees with rfl | ⟨rfl, rfl⟩ | ⟨rfl, rfl⟩
  · cases final
  · rcases confirms with ⟨-, rfl⟩ | ⟨⟨⟩, -⟩
    rfl
  · rcases confirms with ⟨⟨⟩, -⟩ | ⟨-, rfl⟩
    rfl

/-- A payment that cannot take the outcome its record confirms is final. -/
theorem Agrees.final_of_stuck {view : NodePaymentStatus} {status next : PaymentStatus}
    (agrees : Agrees view status) (confirms : Confirms view next)
    (stuck : status.canTransitionTo next = false) : status.isFinal = true := by
  rcases agrees with rfl | ⟨-, rfl⟩ | ⟨-, rfl⟩
  · rcases confirms with ⟨-, rfl⟩ | ⟨-, rfl⟩ <;> cases stuck
  · rfl
  · rfl

/-- The payment that was sent has the status. -/
def OwnerHas (paymentHash : String) (system : System) (status : PaymentStatus) : Prop :=
  ∃ record row, system.ledger.records paymentHash = some record ∧
    system.world.db.findPayment record.owner = some row ∧ row.status = status

/-- What a task may rely on. -/
def Task.Attributed (paymentHash : String) (system : System) : Task → Prop
  | .reconcile _ _ _ => False
  | .send _ _ (.dispatch prepared payment _) => prepared.paymentHash = paymentHash →
      system.ledger.records paymentHash = none →
      ∃ row, system.world.db.findPayment payment.id = some row ∧ row.status = .pending
  | .event _ _ (.apply outcome payment) => outcome.paymentHash = paymentHash →
      ∃ record, system.ledger.records paymentHash = some record ∧ payment.id = record.owner
  | .event nodeEvent _ (.handled result) => ∀ outcome, outcomeOf nodeEvent = some outcome →
      outcome.paymentHash = paymentHash → acknowledges result = true →
      OwnerHas paymentHash system outcome.next
  | _ => True

/-- What an entry says. -/
def Entry.Attributed (paymentHash : String) (system : System) : Entry → Prop
  | .stored id status (.handler event) => ∀ outcome, outcomeOf event = some outcome →
      outcome.paymentHash = paymentHash → status = outcome.next ∧
        ∃ record, system.ledger.records paymentHash = some record ∧ record.owner = id
  | .dispatched _ _ id hash _ _ (.ok _) => hash = paymentHash →
      ∃ record, system.ledger.records paymentHash = some record ∧ record.owner = id
  | .acknowledged event _ => ∀ outcome, outcomeOf event = some outcome →
      outcome.paymentHash = paymentHash → OwnerHas paymentHash system outcome.next
  | _ => True

structure Attribution (paymentHash : String) (system : System) : Prop where
  owner : ∀ record, system.ledger.records paymentHash = some record →
    ∃ row, system.world.db.findPayment record.owner = some row ∧
      row.paymentHash = paymentHash ∧ Agrees record.view.status row.status
  failed : paymentHash ∈ system.ledger.failures →
    ∃ record, system.ledger.records paymentHash = some record ∧ record.view.status = .failed
  tasks : ∀ task, (system.world.tasks task).Attributed paymentHash system
  entries : ∀ entry ∈ system.world.log, entry.Attributed paymentHash system

/-! ## Who moves a payment -/

/-- The sender moves its own payment, a reconciliation any, and a handler one of the
hash its event is about. -/
inductive Mover (system : System) (row : PaymentRow) (move : Move) : Task → Prop where
  | sender (projectId idempotencyKey : String) (phase : SendPhase)
      (owns : (Task.send projectId idempotencyKey phase).owns = some row.id)
      (unsent : ∀ prepared payment pending, phase ≠ .dispatch prepared payment pending)
      (author : ∀ event, move.author ≠ .handler event) :
      Mover system row move (.send projectId idempotencyKey phase)
  | reconciler (payment : PaymentRecord) (phase : ReconcilePhase) (rest : List PaymentRecord)
      (author : ∀ event, move.author ≠ .handler event) :
      Mover system row move (.reconcile payment phase rest)
  | handler (event : NodeEvent) (known : Bool) (outcome : EventOutcome) (payment : PaymentRecord)
      (resolves : outcomeOf event = some outcome) (same : payment.id = row.id)
      (hash : row.paymentHash = outcome.paymentHash) (next : move.next = outcome.next)
      (author : move.author = .handler event)
      (delivered : Entry.delivered event ∈ system.world.log) :
      Mover system row move (.event event known (.apply outcome payment))

theorem Task.Sound.mover {env : Env} {system : System} {task : Task}
    (sound : task.Sound env system.world.db system.world.log) {move : Move}
    (moves : task.move = some move) {row : PaymentRow}
    (found : system.world.db.findPayment move.paymentId = some row) :
    Mover system row move task := by
  obtain ⟨-, rowId⟩ := lookup_some found
  cases task with
  | idle => cases moves
  | send projectId idempotencyKey phase =>
      cases phase with
      | persist prepared payment =>
          cases moves
          exact .sender projectId idempotencyKey _ (congrArg some rowId.symm) (by simp) (by simp)
      | refuse prepared payment error =>
          cases moves
          exact .sender projectId idempotencyKey _ (congrArg some rowId.symm) (by simp) (by simp)
      | _ => cases moves
  | reconcile payment phase rest =>
      cases phase with
      | look => cases moves
      | passPending nodeView next resolution =>
          cases moves
          exact .reconciler payment _ rest (by simp)
      | settle nodeView next resolution =>
          cases moves
          exact .reconciler payment _ rest (by simp)
  | event event known phase =>
      cases phase with
      | apply outcome payment =>
          cases moves
          obtain ⟨delivered, resolves, hash, kept, foundKept, -, -, keptHash⟩ := sound
          cases foundKept.symm.trans found
          exact .handler event known outcome payment resolves rowId.symm (keptHash.trans hash) rfl
            rfl delivered
      | _ => cases moves

section Moves

variable {env : Env} {system : System} {paymentHash : String}

/-- The node confirms what it delivers. -/
theorem Attribution.confirms (attribution : Attribution paymentHash system) (told : Told system)
    {event : NodeEvent} {outcome : EventOutcome}
    (delivered : Entry.delivered event ∈ system.world.log)
    (resolves : outcomeOf event = some outcome) (hash : outcome.paymentHash = paymentHash) :
    ∃ record, system.ledger.records paymentHash = some record ∧
      Confirms record.view.status outcome.next := by
  have reports := told.delivered event delivered
  rcases outcomeOf_cases resolves with ⟨next, -⟩ | ⟨next, -⟩
  · obtain ⟨record, found, status⟩ := NodeLedger.reports_succeeded reports resolves next
    exact ⟨record, hash ▸ found, .inl ⟨status, next⟩⟩
  · have failed := NodeLedger.reports_failed reports resolves next
    rw [hash] at failed
    obtain ⟨record, found, status⟩ := attribution.failed failed
    exact ⟨record, found, .inr ⟨status, next⟩⟩

/-- The payment that was sent is moved by the handler of an event of its hash: its
sender is done with it. -/
theorem Attribution.owner_moved (attribution : Attribution paymentHash system)
    (reached : (lightning env).Reachable system) {record : NodeRecord}
    (known : system.ledger.records paymentHash = some record) {task : ℕ} {move : Move}
    (moves : (system.world.tasks task).move = some move)
    (target : move.paymentId = record.owner) :
    Confirms record.view.status move.next := by
  have sound := sound_of_reachable (daemon_reachable reached)
  have ownership := ownership_of_reachable (daemon_reachable reached)
  have told := told_of_reachable reached
  obtain ⟨row, found, hash, -⟩ := attribution.owner record known
  obtain ⟨-, rowId⟩ := lookup_some found
  obtain ⟨project, key, bolt11, amount, nodeId, sent⟩ := told.owner paymentHash record known
  have mover := (sound.tasks task).mover moves (target ▸ found)
  generalize here : system.world.tasks task = current at mover
  cases mover with
  | sender projectId idempotencyKey phase owns unsent author =>
      have held := sound.tasks task
      rw [here] at held
      cases phase with
      | persist prepared payment =>
          -- it has not been sent yet
          have never := ownership.unsent task row.id (by rw [here]; exact owns)
          rw [attempts, List.countP_eq_zero] at never
          exact absurd (decide_eq_true rowId.symm) (never _ sent)
      | refuse prepared payment error =>
          obtain ⟨-, refused⟩ := held
          have same := eq_of_countP_le_one (ownership.once row.id) sent refused
            (decide_eq_true rowId.symm) (decide_eq_true (Option.some.inj owns))
          simp only [Entry.dispatched.injEq, reduceCtorEq, and_false] at same
      | dispatch prepared payment pending => exact absurd rfl (unsent prepared payment pending)
      | _ => cases owns
  | reconciler payment phase rest author =>
      have held := attribution.tasks task
      rw [here] at held
      cases held
  | handler event known' outcome payment resolves same rowHash next author delivered =>
      obtain ⟨other, foundOther, confirms⟩ :=
        attribution.confirms told delivered resolves (rowHash.symm.trans hash)
      cases foundOther.symm.trans known
      rw [next]
      exact confirms

/-- A payment that is about to be sent, and none of the hash was, is moved by its
own task. -/
theorem Attribution.waiting_moved (attribution : Attribution paymentHash system)
    (reached : (lightning env).Reachable system)
    (none_ : system.ledger.records paymentHash = none) {waiting : ℕ}
    {projectId idempotencyKey : String} {prepared : Prepared} {payment pending : PaymentRecord}
    (waits : system.world.tasks waiting =
      .send projectId idempotencyKey (.dispatch prepared payment pending))
    (hash : prepared.paymentHash = paymentHash) {task : ℕ} {move : Move}
    (moves : (system.world.tasks task).move = some move)
    (target : move.paymentId = payment.id) : False := by
  have sound := sound_of_reachable (daemon_reachable reached)
  have ownership := ownership_of_reachable (daemon_reachable reached)
  have held := sound.tasks waiting
  rw [waits] at held
  obtain ⟨⟨row, found, -, -, rowHash⟩, -⟩ := held
  obtain ⟨-, rowId⟩ := lookup_some found
  have mover := (sound.tasks task).mover moves (target ▸ found)
  generalize here : system.world.tasks task = current at mover
  cases mover with
  | sender project key phase owns unsent author =>
      have one := ownership.unique waiting task payment.id (by rw [waits]; rfl)
        (by rw [here, owns, rowId])
      subst one
      cases waits.symm.trans here
      exact unsent _ _ _ rfl
  | reconciler other phase rest author =>
      have held := attribution.tasks task
      rw [here] at held
      cases held
  | handler event known outcome other resolves same outcomeHash next author delivered =>
      obtain ⟨record, known', -⟩ := attribution.confirms (told_of_reachable reached) delivered
        resolves (outcomeHash.symm.trans (rowHash.trans hash))
      cases none_.symm.trans known'

end Moves

/-! ## Steps -/

section Steps

variable {env : Env} {paymentHash : String} {system next : System} {action : SystemAction}

/-- The record keeps its payment, and is resolved once. -/
theorem SystemStepped.record_kept (stepped : SystemStepped env system action next)
    (met : OneAccepted paymentHash system action) {record : NodeRecord}
    (known : system.ledger.records paymentHash = some record) :
    ∃ later, next.ledger.records paymentHash = some later ∧ later.owner = record.owner ∧
      (record.view.status ≠ .pending → later = record) := by
  cases stepped.record paymentHash with
  | same kept => exact ⟨record, kept.trans known, rfl, fun _ => rfl⟩
  | accepted task projectId idempotencyKey prepared payment pending nodeId dispatches sends hash
      free added asked =>
      subst dispatches
      cases known.symm.trans (met _ _ _ _ _ sends hash)
  | resolved before outcome found pending still set =>
      cases found.symm.trans known
      exact ⟨_, set, rfl, fun resolved => absurd pending resolved⟩

theorem OwnerHas.lasts {status : PaymentStatus} (has : OwnerHas paymentHash system status)
    (final : status.isFinal = true) (stepped : SystemStepped env system action next)
    (met : OneAccepted paymentHash system action) : OwnerHas paymentHash next status := by
  obtain ⟨record, row, known, found, same⟩ := has
  obtain ⟨later, knownLater, owner, -⟩ := stepped.record_kept met known
  have changed := rowChanged_of_performed stepped.performed record.owner
  rw [found] at changed
  refine ⟨later, row, knownLater, ?_, same⟩
  rw [owner]
  exact changed.frozen (same ▸ final)

theorem Attribution.owner_next (attribution : Attribution paymentHash system)
    (reached : (lightning env).Reachable system) (stepped : SystemStepped env system action next)
    (met : OneAccepted paymentHash system action) {record : NodeRecord}
    (known : next.ledger.records paymentHash = some record) :
    ∃ row, next.world.db.findPayment record.owner = some row ∧ row.paymentHash = paymentHash ∧
      Agrees record.view.status row.status := by
  -- the row of a payment that was sent before
  have kept : ∀ before, system.ledger.records paymentHash = some before →
      ∃ row, next.world.db.findPayment before.owner = some row ∧
        row.paymentHash = paymentHash ∧ Agrees before.view.status row.status := by
    intro before knownBefore
    obtain ⟨row, found, hash, agrees⟩ := attribution.owner before knownBefore
    rcases stepped.row before.owner with kept | ⟨task, taskAction, outcome, -, -, -, wrote⟩
    · exact ⟨row, kept.trans found, hash, agrees⟩
    · cases wrote with
      | same kept => exact ⟨row, kept.trans found, hash, agrees⟩
      | created fresh other added status => cases fresh.symm.trans found
      | moved move moves target other foundOther legal now fee written =>
          cases foundOther.symm.trans found
          exact ⟨_, written, hash, .inr (attribution.owner_moved reached knownBefore moves target)⟩
  cases stepped.record paymentHash with
  | same keptRecord => exact kept record (keptRecord ▸ known)
  | accepted task projectId idempotencyKey prepared payment pending nodeId dispatches sends hash
      free added asked =>
      cases added.symm.trans known
      subst dispatches
      have waits := attribution.tasks task
      have sound := (sound_of_reachable (daemon_reachable reached)).tasks task
      rw [sends] at waits sound
      obtain ⟨row, found, status⟩ := waits hash (met _ _ _ _ _ sends hash)
      obtain ⟨⟨stored, foundStored, -, -, storedHash⟩, -⟩ := sound
      cases foundStored.symm.trans found
      refine ⟨row, ?_, storedHash.trans hash, .inl status⟩
      cases stepped with
      | acted _ _ outcome acted admitted =>
          rw [sends] at acted
          cases acted
          exact found
  | resolved before outcome knownBefore pending still set =>
      cases set.symm.trans known
      obtain ⟨row, found, hash, agrees⟩ := attribution.owner before knownBefore
      rw [still]
      refine ⟨row, found, hash, ?_⟩
      rw [pending] at agrees
      rcases agrees with status | ⟨⟨⟩, -⟩ | ⟨⟨⟩, -⟩
      exact .inl status

/-- A task that does not act may rely on what it relied on. -/
theorem Attribution.task_kept (attribution : Attribution paymentHash system)
    (reached : (lightning env).Reachable system) (stepped : SystemStepped env system action next)
    (met : OneAccepted paymentHash system action) (task : ℕ) :
    (system.world.tasks task).Attributed paymentHash next := by
  have held := attribution.tasks task
  generalize here : system.world.tasks task = current at held
  cases current with
  | idle => trivial
  | reconcile payment phase rest => exact held
  | send projectId idempotencyKey phase =>
      cases phase with
      | dispatch prepared payment pending =>
          intro hash noneNext
          have none_ : system.ledger.records paymentHash = none := by
            cases known : system.ledger.records paymentHash with
            | none => rfl
            | some record =>
                obtain ⟨later, knownLater, -⟩ := stepped.record_kept met known
                cases noneNext.symm.trans knownLater
          obtain ⟨row, found, status⟩ := held hash none_
          rcases stepped.row payment.id with kept | ⟨other, otherAction, outcome, -, -, -, wrote⟩
          · exact ⟨row, kept.trans found, status⟩
          · cases wrote with
            | same kept => exact ⟨row, kept.trans found, status⟩
            | created fresh other added status => cases fresh.symm.trans found
            | moved move moves target other foundOther legal now fee written =>
                exact (attribution.waiting_moved reached none_ here hash moves target).elim
      | _ => trivial
  | event event known phase =>
      cases phase with
      | handle => trivial
      | apply outcome payment =>
          intro hash
          obtain ⟨record, knownRecord, sent⟩ := held hash
          obtain ⟨later, knownLater, owner, -⟩ := stepped.record_kept met knownRecord
          exact ⟨later, knownLater, sent.trans owner.symm⟩
      | handled result =>
          intro outcome resolves hash ends
          exact (held outcome resolves hash ends).lasts (outcomeOf_final resolves) stepped met

/-- What the task that acts may rely on. -/
theorem Attribution.task_next (attribution : Attribution paymentHash system)
    (reached : (lightning env).Reachable system) {task : ℕ} {taskAction : TaskAction}
    {outcome : Outcome}
    (stepped : SystemStepped env system (.daemon (.act task taskAction)) next)
    (acted : Acted env system.world.db (system.world.tasks task) taskAction outcome)
    (left : next.world.db = outcome.db)
    (met : OneAccepted paymentHash system (.daemon (.act task taskAction)))
    (first : OwnerFirst paymentHash system (.daemon (.act task taskAction))) :
    outcome.task.Attributed paymentHash next := by
  have held := attribution.tasks task
  have sound := (sound_of_reachable (daemon_reachable reached)).tasks task
  have told := told_of_reachable reached
  -- the outcome of a payment that is final already
  have settled : ∀ {record : NodeRecord} {row : PaymentRow} {resolving : EventOutcome}
      {event : NodeEvent}, outcomeOf event = some resolving →
      system.ledger.records paymentHash = some record →
      system.world.db.findPayment record.owner = some row → row.status.isFinal = true →
      Agrees record.view.status row.status → Confirms record.view.status resolving.next →
      OwnerHas paymentHash next resolving.next := by
    intro record row resolving event resolves known found final agrees confirms
    have has : OwnerHas paymentHash system resolving.next :=
      ⟨record, row, known, found, agrees.eq_of_confirms final confirms⟩
    exact has.lasts (outcomeOf_final resolves) stepped met
  generalize here : system.world.tasks task = current at acted held sound
  cases acted with
  | persisted projectId idempotencyKey prepared payment now pending after call =>
      intro hash noneNext
      rw [left]
      cases transitionPayment_moved call with
      | replayed row found key keyed claimed => cases keyed
      | repeated row found status => exact ⟨row, found, status⟩
      | moved row found unclaimed legal fee fits =>
          obtain ⟨-, rowId⟩ := lookup_some found
          rw [← rowId] at found ⊢
          exact ⟨_, (findPayment_of_set found (afterMove_outgoingPayments now none .pending fee {}
            row system.world.db) row.id).trans (if_pos rfl), rfl⟩
  | reconciling => exact met.elim
  | reconcilingAll => exact met.elim
  | undecided => exact held.elim
  | passing => exact held.elim
  | settling => exact held.elim
  | passed => exact held.elim
  | settled => exact held.elim
  | picked event known tie resolving resolves payment found =>
      intro hash
      obtain ⟨record, knownRecord, -⟩ := attribution.confirms told sound.1 resolves hash
      obtain ⟨later, knownLater, owner, -⟩ := stepped.record_kept met knownRecord
      refine ⟨later, knownLater, ?_⟩
      rw [owner]
      obtain ⟨row, ⟨member, newest⟩, rfl⟩ := findUnresolvedPaymentByHash_some found
      rw [hash] at member newest found
      by_contra other
      obtain ⟨sent, sentMember, owned, older, atOnce⟩ :=
        first event known resolving record here resolves hash knownRecord row member other
      -- both are newest, so the query has met the other one first
      have same : row.createdAt = sent.createdAt := le_antisymm older (newest sent sentMember)
      rw [atOnce same] at found
      refine other (owned ▸ findUnresolvedPaymentByHash_tie ⟨sentMember, ?_⟩ found)
      intro third thirdMember
      exact (newest third thirdMember).trans (le_of_eq same)
  | ignored event known tie notReceived irrelevant =>
      intro resolving resolves
      cases irrelevant.symm.trans resolves
  | unmatched event known tie resolving resolves missing =>
      intro resolving' resolves' hash ends
      cases resolves.symm.trans resolves'
      obtain ⟨record, knownRecord, confirms⟩ := attribution.confirms told sound.1 resolves hash
      obtain ⟨row, found, rowHash, agrees⟩ := attribution.owner record knownRecord
      refine settled resolves knownRecord found ?_ agrees confirms
      -- a payment that is not final would have been found
      cases final : row.status.isFinal with
      | true => rfl
      | false =>
          rw [findUnresolvedPaymentByHash_none] at missing
          have member := mem_unresolvedByHash.mpr
            ⟨(lookup_some found).1, rowHash.trans hash.symm, final⟩
          rw [missing] at member
          cases member
  | received hash amountMsat known now answer after call =>
      intro resolving resolves
      cases resolves
  | applyFailed event known resolving payment now error after call =>
      intro resolving' resolves' hash ends
      obtain ⟨delivered, resolves, -⟩ := sound
      cases resolves.symm.trans resolves'
      obtain ⟨record, knownRecord, sent⟩ := held hash
      obtain ⟨other, knownOther, confirms⟩ := attribution.confirms told delivered resolves hash
      cases knownOther.symm.trans knownRecord
      obtain ⟨row, found, rowHash, agrees⟩ := attribution.owner record knownRecord
      rw [← sent] at found
      cases transitionPayment_moved call with
      | missing absent => cases absent.symm.trans found
      | illegal row' found' illegal =>
          cases found'.symm.trans found
          exact settled resolves knownRecord (sent ▸ found)
            (agrees.final_of_stuck confirms illegal) agrees confirms
      | outOfRange row' found' legal fee given large => cases ends
  | applied event known resolving payment now applied after call =>
      intro resolving' resolves' hash ends
      obtain ⟨delivered, resolves, -⟩ := sound
      cases resolves.symm.trans resolves'
      obtain ⟨record, knownRecord, sent⟩ := held hash
      obtain ⟨other, knownOther, confirms⟩ := attribution.confirms told delivered resolves hash
      cases knownOther.symm.trans knownRecord
      obtain ⟨row, found, rowHash, agrees⟩ := attribution.owner record knownRecord
      rw [← sent] at found
      obtain ⟨-, rowId⟩ := lookup_some found
      cases transitionPayment_moved call with
      | replayed row' found' key keyed claimed =>
          cases keyed
          obtain ⟨final, foundFinal, status⟩ :=
            outcomeKeys_of_reachable (daemon_reachable reached) event resolving payment.id resolves
              claimed
          cases foundFinal.symm.trans found
          exact settled resolves knownRecord (sent ▸ found) status agrees confirms
      | repeated row' found' status =>
          cases found'.symm.trans found
          refine settled resolves knownRecord (sent ▸ found) ?_ agrees confirms
          rw [status]
          exact outcomeOf_final resolves
      | moved row' found' unclaimed legal fee fits =>
          cases found'.symm.trans found
          obtain ⟨later, knownLater, owner, -⟩ := stepped.record_kept met knownRecord
          refine ⟨later, resolvedRow now resolving.next fee resolving.resolution row, knownLater,
            ?_, rfl⟩
          rw [left, owner, ← sent, ← rowId]
          rw [← rowId] at found
          exact (findPayment_of_set found (afterMove_outgoingPayments now _ resolving.next fee
            resolving.resolution _ system.world.db) _).trans (if_pos rfl)
  | _ => trivial

theorem Entry.Attributed.lasts {entry : Entry} (held : entry.Attributed paymentHash system)
    (stepped : SystemStepped env system action next) (met : OneAccepted paymentHash system action) :
    entry.Attributed paymentHash next := by
  have kept : ∀ {id : String},
      (∃ record, system.ledger.records paymentHash = some record ∧ record.owner = id) →
      ∃ record, next.ledger.records paymentHash = some record ∧ record.owner = id := by
    rintro id ⟨record, known, rfl⟩
    obtain ⟨later, knownLater, owner, -⟩ := stepped.record_kept met known
    exact ⟨later, knownLater, owner⟩
  cases entry with
  | stored id status author =>
      cases author with
      | handler event =>
          intro outcome resolves hash
          obtain ⟨same, record⟩ := held outcome resolves hash
          exact ⟨same, kept record⟩
      | _ => trivial
  | dispatched projectId idempotencyKey id hash bolt11 amountMsat answer =>
      cases answer with
      | ok nodeId =>
          intro same
          exact kept (held same)
      | error error => trivial
  | acknowledged event known =>
      intro outcome resolves hash
      exact (held outcome resolves hash).lasts (outcomeOf_final resolves) stepped met
  | _ => trivial

/-- A handler stores the outcome of its event. -/
theorem Attribution.stored_next (attribution : Attribution paymentHash system)
    (sound : system.world.Sound env) {task : ℕ} {after : Db} {entries : List Entry}
    (wrote : Wrote (system.world.tasks task) system.world.db after entries) {id : String}
    {status : PaymentStatus} {event : NodeEvent}
    (member : Entry.stored id status (.handler event) ∈ entries) :
    (Entry.stored id status (.handler event)).Attributed paymentHash system := by
  intro outcome resolves hash
  cases wrote with
  | nothing entries silent => exact absurd member (silent _ _ _)
  | credited => cases member
  | begun => simp at member
  | moved move moves now fee row found unclaimed legal entries recorded =>
      obtain ⟨rfl, rfl, author⟩ := (recorded _ _ _).mp member
      have mover := (sound.tasks task).mover moves found
      have held := attribution.tasks task
      generalize system.world.tasks task = current at mover held
      cases mover with
      | sender projectId idempotencyKey phase owns unsent other =>
          exact absurd author.symm (other _)
      | reconciler payment phase rest other => exact absurd author.symm (other _)
      | handler event' known resolving payment resolves' same rowHash next author' delivered =>
          rw [author', Author.handler.injEq] at author
          subst author
          cases resolves'.symm.trans resolves
          obtain ⟨record, knownRecord, sent⟩ := held hash
          exact ⟨next, record, knownRecord, sent.symm.trans same⟩

theorem Attribution.entries_next (attribution : Attribution paymentHash system)
    (sound : system.world.Sound env) (stepped : SystemStepped env system action next)
    (met : OneAccepted paymentHash system action) :
    ∀ entry ∈ next.world.log, entry.Attributed paymentHash next := by
  intro entry member
  have taken := stepped
  cases stepped with
  | acted task action outcome acted admitted =>
      rcases List.mem_append.mp member with new | old
      · cases entry with
        | stored id status author =>
            cases author with
            | handler event =>
                exact (attribution.stored_next sound acted.wrote new).lasts taken met
            | _ => trivial
        | dispatched projectId idempotencyKey id hash bolt11 amountMsat answer =>
            cases answer with
            | error error => trivial
            | ok nodeId =>
                rintro rfl
                obtain ⟨prepared, payment, pending, sends, rfl, rfl, rfl⟩ := acted.dispatched new
                refine ⟨⟨⟨.pending, none, none⟩, payment.id⟩, ?_, rfl⟩
                rw [sends]
                exact Function.update_self _ _ _
        | acknowledged event known =>
            intro resolving resolves hash
            obtain ⟨result, here, ends⟩ := acted.acknowledges new
            have held := attribution.tasks task
            rw [here] at held
            exact (held resolving resolves hash ends).lasts (outcomeOf_final resolves) taken met
        | _ => trivial
      · exact (attribution.entries entry old).lasts taken met
  | crashed => exact (attribution.entries entry member).lasts taken met
  | called call other => exact (attribution.entries entry member).lasts taken met
  | resolved resolvedHash outcome record found pending =>
      exact (attribution.entries entry member).lasts taken met

theorem Attribution.failed_next (attribution : Attribution paymentHash system)
    (stepped : SystemStepped env system action next) (met : OneAccepted paymentHash system action)
    (failed : paymentHash ∈ next.ledger.failures) :
    ∃ record, next.ledger.records paymentHash = some record ∧ record.view.status = .failed := by
  have before : paymentHash ∈ system.ledger.failures →
      ∃ record, next.ledger.records paymentHash = some record ∧ record.view.status = .failed := by
    intro old
    obtain ⟨record, known, status⟩ := attribution.failed old
    obtain ⟨later, knownLater, -, same⟩ := stepped.record_kept met known
    rw [same (by rw [status]; decide)] at knownLater
    exact ⟨record, knownLater, status⟩
  cases stepped with
  | acted task action outcome acted admitted =>
      refine before ?_
      rcases system.ledger.after_cases (system.world.tasks task) action with
        same | ⟨_, _, _, _, _, _, -, -, accepts⟩
      · rw [same] at failed
        exact failed
      · rw [accepts] at failed
        exact failed
  | crashed => exact before failed
  | called call other => exact before failed
  | resolved resolvedHash outcome record found pending =>
      dsimp only at failed
      split at failed
      · rename_i status
        rcases List.mem_cons.mp failed with rfl | old
        · exact ⟨_, Function.update_self _ _ _, status⟩
        · exact before old
      · exact before failed

theorem Attribution.step (attribution : Attribution paymentHash system)
    (reached : (lightning env).Reachable system) (stepped : SystemStepped env system action next)
    (met : OneAccepted paymentHash system action) (first : OwnerFirst paymentHash system action) :
    Attribution paymentHash next := by
  have sound := sound_of_reachable (daemon_reachable reached)
  refine ⟨fun record known => attribution.owner_next reached stepped met known,
    attribution.failed_next stepped met, ?_, attribution.entries_next sound stepped met⟩
  intro other
  have kept := attribution.task_kept reached stepped met other
  have taken := stepped
  cases stepped with
  | acted task action outcome acted admitted =>
      rw [World.put_tasks]
      split
      · exact attribution.task_next reached taken acted rfl met first
      · exact kept
  | crashed => trivial
  | called call other => exact kept
  | resolved resolvedHash outcome record found pending => exact kept

end Steps

/-! ## Runs -/

/-- What is asked of a step: the node accepts one dispatch, and the payment that was
sent is the newest that the handler can find. -/
def Attributes (paymentHash : String) (system : System) (action : SystemAction) : Prop :=
  OneAccepted paymentHash system action ∧ OwnerFirst paymentHash system action

theorem attribution_of_reachableBy {env : Env} {paymentHash : String} {system : System}
    (reached : (lightning env).ReachableBy (Attributes paymentHash) system) :
    Attribution paymentHash system := by
  refine reached.invariant (Attribution paymentHash) ?_ ?_
  · rintro _ rfl
    refine ⟨?_, ?_, fun _ => trivial, ?_⟩
    · intro record known
      cases known
    · intro failed
      cases failed
    · intro entry member
      cases member
  · intro system action next earlier attribution met step
    exact attribution.step earlier (systemStepped_of_step step) met.1 met.2

/-- **The outcome of a hash is applied to the payment that was sent.** In every run
of the daemon and its node in which the node accepts one dispatch of the hash,
nothing is reconciled, and the handler of an outcome of the hash finds no payment
newer than the one that was sent: what a handler stores of an outcome of the hash
is its outcome, of a payment whose dispatch the node accepted; there is one such
payment; and once the event is acknowledged it has the outcome. -/
theorem outcome_attributed {env : Env} {paymentHash : String} {system : System}
    (reached : (lightning env).ReachableBy (Attributes paymentHash) system) :
    (∀ id status event outcome, Entry.stored id status (.handler event) ∈ system.world.log →
      outcomeOf event = some outcome → outcome.paymentHash = paymentHash →
      status = outcome.next ∧ ∃ projectId idempotencyKey bolt11 amountMsat nodeId,
        Entry.dispatched projectId idempotencyKey id paymentHash bolt11 amountMsat (.ok nodeId) ∈
          system.world.log) ∧
    (∀ projectId idempotencyKey id bolt11 amountMsat nodeId,
      Entry.dispatched projectId idempotencyKey id paymentHash bolt11 amountMsat (.ok nodeId) ∈
        system.world.log →
      (∀ projectId' idempotencyKey' id' bolt11' amountMsat' nodeId',
        Entry.dispatched projectId' idempotencyKey' id' paymentHash bolt11' amountMsat'
          (.ok nodeId') ∈ system.world.log → id' = id) ∧
      ∀ event known outcome, Entry.acknowledged event known ∈ system.world.log →
        outcomeOf event = some outcome → outcome.paymentHash = paymentHash →
        ∃ row, system.world.db.findPayment id = some row ∧ row.status = outcome.next) := by
  have attribution := attribution_of_reachableBy reached
  have told := told_of_reachable reached.reachable
  refine ⟨?_, ?_⟩
  · intro id status event outcome member resolves hash
    obtain ⟨same, record, known, rfl⟩ := attribution.entries _ member outcome resolves hash
    exact ⟨same, told.owner paymentHash record known⟩
  · intro projectId idempotencyKey id bolt11 amountMsat nodeId sent
    obtain ⟨record, known, rfl⟩ := attribution.entries _ sent rfl
    refine ⟨?_, ?_⟩
    · intro projectId' idempotencyKey' id' bolt11' amountMsat' nodeId' sent'
      obtain ⟨record', known', rfl⟩ := attribution.entries _ sent' rfl
      cases known.symm.trans known'
      rfl
    · intro event known' outcome member resolves hash
      obtain ⟨record', row, knownRecord, found, status⟩ :=
        attribution.entries _ member outcome resolves hash
      cases known.symm.trans knownRecord
      exact ⟨row, found, status⟩

/-- An older request for the invoice waits while a newer one is sent, and is refused
after the outcome was applied. -/
def attributedActions : List SystemAction :=
  [.daemon (.act 1 (.begin_ 1 "pay_2")), .daemon (.act 0 (.begin_ 2 "pay_1")),
    .daemon (.act 0 (.persist 3)), .daemon (.act 0 (.dispatch (.ok "node_1"))),
    .resolve regtestInvoice.paymentHash regtestPaid, .daemon (.act 2 (.deliver regtestSuccess)),
    .daemon (.act 2 (.pick "pay_1")), .daemon (.act 2 (.apply 4)), .daemon (.act 2 .acknowledge),
    .daemon (.act 1 (.persist 5)), .daemon (.act 1 (.dispatch (.error .duplicatePayment))),
    .daemon (.act 1 (.refuse 6))]

theorem twoRequests_attributes (paymentHash : String) :
    (lightning regtest).ReachableBy (Attributes paymentHash) ⟨twoRequests, {}⟩ :=
  twoRequests_lightning (fun _ _ _ _ _ _ => ⟨trivial, trivial⟩)
    fun _ _ _ _ _ _ _ => ⟨trivial, trivial⟩

theorem outcome_attributed_older : ∃ system,
    (lightning regtest).run ⟨twoRequests, {}⟩ attributedActions = some system ∧
    (system.world.db.findPayment "pay_2").map (fun row => row.status) = some .failed ∧
    ∃ row, system.world.db.findPayment "pay_1" = some row ∧ row.status = .succeeded := by
  have ran : (lightning regtest).run ⟨twoRequests, {}⟩ attributedActions = some _ := rfl
  have met : (lightning regtest).StepsMeet (Attributes regtestInvoice.paymentHash)
      ⟨twoRequests, {}⟩ attributedActions := by
    refine .cons ⟨trivial, trivial⟩ rfl (.cons ⟨trivial, trivial⟩ rfl
      (.cons ⟨trivial, trivial⟩ rfl (.cons ⟨?_, trivial⟩ rfl (.cons ⟨trivial, trivial⟩ rfl
      (.cons ⟨trivial, trivial⟩ rfl (.cons ⟨trivial, ?_⟩ rfl (.cons ⟨trivial, trivial⟩ rfl
      (.cons ⟨trivial, trivial⟩ rfl (.cons ⟨trivial, trivial⟩ rfl (.cons ⟨trivial, trivial⟩ rfl
      (.cons ⟨trivial, trivial⟩ rfl (.nil _))))))))))))
    · intro projectId idempotencyKey prepared payment pending _ _
      rfl
    · -- the other payment is older
      rintro event known outcome record ⟨⟩ ⟨⟩ - ⟨⟩ other member different
      obtain ⟨stored, -, -⟩ := mem_unresolvedByHash.mp member
      rcases List.mem_cons.mp stored with rfl | stored
      · exact ⟨_, mem_unresolvedByHash.mpr ⟨.tail _ (.head _), rfl, rfl⟩, rfl, by decide,
          by decide⟩
      · rw [List.mem_singleton.mp stored] at different
        exact absurd rfl different
  have reached := Machine.reachableBy_of_run
    (twoRequests_attributes regtestInvoice.paymentHash) met ran
  -- where the two stand in the log, newest first
  have sent := (outcome_attributed reached).2 "prj_1" "key_1" "pay_1" regtestBolt11 none "node_1"
    (List.mem_iff_getElem?.mpr ⟨8, rfl⟩)
  exact ⟨_, ran, rfl, sent.2 regtestSuccess false _ (List.mem_iff_getElem?.mpr ⟨4, rfl⟩) rfl rfl⟩

/-- A newer request is stored when the success of the first is reported. -/
def droppedActions : List SystemAction :=
  [.daemon (.act 0 (.begin_ 1 "pay_1")), .daemon (.act 0 (.persist 2)),
    .daemon (.act 0 (.dispatch (.ok "node_1"))), .daemon (.act 1 (.begin_ 3 "pay_2")),
    .resolve regtestInvoice.paymentHash regtestPaid, .daemon (.act 2 (.deliver regtestSuccess)),
    .daemon (.act 2 (.pick "pay_2")), .daemon (.act 2 (.apply 4)), .daemon (.act 2 .acknowledge),
    .daemon (.act 1 (.persist 5)), .daemon (.act 1 (.dispatch (.error .duplicatePayment))),
    .daemon (.act 1 (.refuse 6))]

theorem outcome_dropped : ∃ system, (lightning regtest).Reachable system ∧
    Entry.dispatched "prj_1" "key_1" "pay_1" regtestInvoice.paymentHash regtestBolt11 none
      (.ok "node_1") ∈ system.world.log ∧
    Entry.acknowledged regtestSuccess false ∈ system.world.log ∧
    system.world.db.outgoingPayments.map (fun row => (row.id, row.status)) =
      [("pay_1", .pending), ("pay_2", .failed)] := by
  have ran : (lightning regtest).run ⟨twoRequests, {}⟩ droppedActions = some _ := rfl
  have start := (twoRequests_attributes regtestInvoice.paymentHash).reachable
  -- where the two stand in the log, newest first
  exact ⟨_, start.leads (Machine.leads_of_run ran), List.mem_iff_getElem?.mpr ⟨9, rfl⟩,
    List.mem_iff_getElem?.mpr ⟨4, rfl⟩, rfl⟩

end Safrod

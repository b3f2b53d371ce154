import Safrod.Engine.NodeLedger
import Safrod.Storage.Totals

/-!
# One success for one payment hash

Several payments may have one hash, and the node pays the hash once. A payment is
marked as succeeded by its hash: by an event, or by the record a reconciliation was
shown. `succeeded_once` is what holds when these find the payment that was sent
(`MarksOwner`): one payment of a hash succeeds, and the totals of the projects
count no Lightning payment twice. They mark it where the payment that was sent is the
one stored when the success is looked up (`marksOwner_of_findsOwner`).

`succeeded_twice` is a run in which a reconciliation finds the other one too.
-/

set_option autoImplicit false

namespace Safrod

open Table Db

/-! ## The payment that was sent -/

/-- A payment is marked as succeeded when the record of its hash is its own. -/
def MarksOwner (system : System) : SystemAction → Prop
  | .daemon (.act task action) => action ≠ .cancel → ∀ move row,
      (system.world.tasks task).move = some move → move.next = .succeeded →
      system.world.db.findPayment move.paymentId = some row →
      row.status.canTransitionTo .succeeded = true →
      ∃ record, system.ledger.records row.paymentHash = some record ∧ record.owner = row.id
  | _ => True

/-- A task that is about to mark a payment as succeeded was told so by the node. -/
theorem Task.Sound.move_succeeded {env : Env} {system : System} {task : Task}
    (sound : task.Sound env system.world.db system.world.log) (told : Told system) {move : Move}
    (moves : task.move = some move) (succeeds : move.next = .succeeded) {row : PaymentRow}
    (found : system.world.db.findPayment move.paymentId = some row) :
    system.ledger.Succeeded row.paymentHash := by
  cases task with
  | idle => cases moves
  | send projectId idempotencyKey phase =>
      cases phase with
      | persist prepared payment =>
          cases moves
          cases succeeds
      | refuse prepared payment error =>
          cases moves
          cases succeeds
      | _ => cases moves
  | reconcile payment phase rest =>
      cases phase with
      | look => cases moves
      | passPending nodeView next resolution =>
          cases moves
          cases succeeds
      | settle nodeView next resolution =>
          cases moves
          obtain ⟨stored, decided, looked⟩ := sound
          obtain ⟨kept, foundKept, -, -, hash⟩ := stored payment List.mem_cons_self
          cases foundKept.symm.trans found
          rw [show next = .succeeded from succeeds] at decided
          obtain ⟨view, rfl, status⟩ := reconcileDecision_succeeded decided
          rw [hash]
          exact told.looked payment.paymentHash view looked status
  | event event known phase =>
      cases phase with
      | apply outcome payment =>
          cases moves
          obtain ⟨delivered, resolves, hash, kept, foundKept, -, -, keptHash⟩ := sound
          cases foundKept.symm.trans found
          rw [keptHash, hash]
          exact NodeLedger.reports_succeeded (told.delivered event delivered) resolves succeeds
      | _ => cases moves

/-- A succeeded payment is the one the node paid. -/
def Settled (system : System) : Prop :=
  ∀ id row, system.world.db.findPayment id = some row → row.status = .succeeded →
    ∃ record, system.ledger.records row.paymentHash = some record ∧ record.owner = row.id ∧
      record.view.status = .succeeded

theorem Settled.step {env : Env} {system next : System} {action : SystemAction}
    (settled : Settled system) (sound : system.world.Sound env) (told : Told system)
    (met : MarksOwner system action) (stepped : SystemStepped env system action next) :
    Settled next := by
  intro id row found succeeded
  -- a row that had succeeded before
  have lasts : system.world.db.findPayment id = some row →
      ∃ record, next.ledger.records row.paymentHash = some record ∧ record.owner = row.id ∧
        record.view.status = .succeeded := by
    intro before
    obtain ⟨record, shown, owner, status⟩ := settled id row before succeeded
    exact ⟨record, stepped.succeeded shown status, owner, status⟩
  rcases stepped.row id with kept | ⟨task, taskAction, outcome, rfl, acted, left, wrote⟩
  · exact lasts (kept ▸ found)
  · cases wrote with
    | same kept => exact lasts (kept ▸ found)
    | created fresh row' added status =>
        cases added.symm.trans found
        rw [status] at succeeded
        cases succeeded
    | moved move moves target before foundBefore legal now fee written =>
        cases written.symm.trans found
        have succeeds : move.next = .succeeded := succeeded
        subst target
        -- a cancellation marks nothing
        have marks : taskAction ≠ .cancel := by
          rintro rfl
          rw [← left, acted.cancels, foundBefore] at written
          have status := congrArg (fun row : PaymentRow => row.status) (Option.some.inj written)
          rw [show before.status = move.next from status,
            PaymentStatus.not_canTransitionTo_self] at legal
          cases legal
        obtain ⟨record, owned, owner⟩ := met marks move before moves succeeds foundBefore
          (succeeds ▸ legal)
        obtain ⟨paid, foundPaid, status⟩ :=
          (sound.tasks task).move_succeeded told moves succeeds foundBefore
        cases foundPaid.symm.trans owned
        exact ⟨record, stepped.succeeded owned status, owner, status⟩

theorem settled_of_reachableBy {env : Env} {system : System}
    (reached : (lightning env).ReachableBy MarksOwner system) : Settled system := by
  refine reached.invariant Settled ?_ ?_
  · rintro _ rfl id row found
    cases found
  · intro system action next earlier settled met step
    exact settled.step (sound_of_reachable (daemon_reachable earlier)) (told_of_reachable earlier)
      met (systemStepped_of_step step)

/-! ## What is stored when a success is looked up -/

/-- Where the handler of a success finds a payment of the hash, and where a reconciliation is
shown a success, the payment is the one that was sent. -/
def FindsOwner (system : System) : SystemAction → Prop
  | .daemon (.act task (.pick tie)) => ∀ event known outcome payment,
      system.world.tasks task = .event event known .handle → outcomeOf event = some outcome →
      outcome.next = .succeeded →
      system.world.db.findUnresolvedPaymentByHash outcome.paymentHash tie = some payment →
      ∃ record, system.ledger.records payment.paymentHash = some record ∧
        record.owner = payment.id
  | .daemon (.act task (.look (some view))) => ∀ payment rest,
      system.world.tasks task = .reconcile payment .look rest → view.status = .succeeded →
      ∃ record, system.ledger.records payment.paymentHash = some record ∧
        record.owner = payment.id
  | _ => True

/-- The payment that a task has found succeeded. -/
def Task.found : Task → Option PaymentRecord
  | .reconcile payment (.passPending _ .succeeded _) _ => some payment
  | .reconcile payment (.settle _ .succeeded _) _ => some payment
  | .event _ _ (.apply outcome payment) => if outcome.next = .succeeded then some payment else none
  | _ => none

/-- What a task has found succeeded is the payment that was sent. -/
def OwnerFound (system : System) (task : Task) : Prop :=
  ∀ payment, task.found = some payment →
    ∃ record, system.ledger.records payment.paymentHash = some record ∧
      record.owner = payment.id ∧ record.view.status = .succeeded

@[simp] theorem found_reconcileNext (rest : List PaymentRecord) :
    (reconcileNext rest).found = none := by
  induction rest with
  | nil => rfl
  | cons payment rest ih =>
      unfold reconcileNext
      split
      · exact ih
      · rfl

/-- How a step finds a payment succeeded. -/
inductive Finds (db : Db) (payment : PaymentRecord) : Task → TaskAction → Prop where
  | looked (rest : List PaymentRecord) (view : NodePayment) (succeeded : view.status = .succeeded) :
      Finds db payment (.reconcile payment .look rest) (.look (some view))
  | picked (event : NodeEvent) (known : Bool) (outcome : EventOutcome) (tie : String)
      (resolves : outcomeOf event = some outcome) (succeeds : outcome.next = .succeeded)
      (hash : payment.paymentHash = outcome.paymentHash)
      (here : db.findUnresolvedPaymentByHash outcome.paymentHash tie = some payment) :
      Finds db payment (.event event known .handle) (.pick tie)

theorem Acted.finds {env : Env} {db : Db} {task : Task} {action : TaskAction} {outcome : Outcome}
    (acted : Acted env db task action outcome) {payment : PaymentRecord}
    (found : outcome.task.found = some payment) :
    task.found = some payment ∨ Finds db payment task action := by
  cases acted with
  | undecided payment rest nodeView none_ =>
      rw [show Outcome.task _ = reconcileNext rest from rfl, found_reconcileNext] at found
      cases found
  | passing payment rest nodeView next resolution decided passes =>
      cases next with
      | succeeded =>
          cases found
          obtain ⟨view, rfl, status⟩ := reconcileDecision_succeeded decided
          exact .inr (.looked rest view status)
      | _ => cases found
  | settling payment rest nodeView next resolution decided direct =>
      cases next with
      | succeeded =>
          cases found
          obtain ⟨view, rfl, status⟩ := reconcileDecision_succeeded decided
          exact .inr (.looked rest view status)
      | _ => cases found
  | passed payment rest nodeView next resolution now pending after call =>
      cases next with
      | succeeded => exact .inl found
      | _ => cases found
  | settled payment rest nodeView next resolution now settled after call =>
      rw [show Outcome.task _ = reconcileNext rest from rfl, found_reconcileNext] at found
      cases found
  | reconciling projectId id payment here =>
      rw [show Outcome.task _ = reconcileNext [payment] from rfl, found_reconcileNext] at found
      cases found
  | reconcilingAll =>
      rw [show Outcome.task _ = reconcileNext db.unresolvedPayments from rfl,
        found_reconcileNext] at found
      cases found
  | picked event known tie outcome resolves payment here =>
      simp only [Task.found] at found
      split at found
      · rename_i succeeds
        cases found
        obtain ⟨row, newest, rfl⟩ := findUnresolvedPaymentByHash_some here
        exact .inr (.picked event known outcome tie resolves succeeds
          (mem_unresolvedByHash.mp newest.1).2.1 here)
      · cases found
  | _ => cases found

theorem OwnerFound.step {env : Env} {system next : System} {action : SystemAction}
    (found : ∀ task, OwnerFound system (system.world.tasks task))
    (sound : system.world.Sound env) (told : Told system) (met : FindsOwner system action)
    (stepped : SystemStepped env system action next) (task : ℕ) :
    OwnerFound next (next.world.tasks task) := by
  intro payment is
  -- what is the payment of a record that succeeded stays it
  suffices before : ∃ record, system.ledger.records payment.paymentHash = some record ∧
      record.owner = payment.id ∧ record.view.status = .succeeded by
    obtain ⟨record, shown, owner, status⟩ := before
    exact ⟨record, stepped.succeeded shown status, owner, status⟩
  cases stepped with
  | acted actor taskAction outcome acted admitted =>
      by_cases same : task = actor
      · subst same
        simp only [World.put, Function.update_self] at is
        rcases acted.finds is with earlier | finds
        · exact found task payment earlier
        · have held := sound.tasks task
          generalize here : system.world.tasks task = current at finds admitted held
          cases finds with
          | looked rest view succeeded =>
              obtain ⟨record, shown, owner⟩ := met payment rest here succeeded
              have viewed : some view = system.ledger.view payment.paymentHash :=
                of_decide_eq_true admitted
              rw [NodeLedger.view, shown] at viewed
              cases viewed
              exact ⟨record, shown, owner, succeeded⟩
          | picked event known resolving tie resolves succeeds hash picks =>
              obtain ⟨record, shown, owner⟩ :=
                met event known resolving payment here resolves succeeds picks
              obtain ⟨paid, foundPaid, status⟩ :=
                NodeLedger.reports_succeeded (told.delivered event held.1) resolves succeeds
              rw [← hash, shown] at foundPaid
              cases foundPaid
              exact ⟨record, shown, owner, status⟩
      · simp only [World.put, Function.update_of_ne same] at is
        exact found task payment is
  | crashed => cases is
  | called call other => exact found task payment is
  | resolved paymentHash outcome record shown pending => exact found task payment is

/-- What is marked was found. -/
theorem OwnerFound.marks {env : Env} {system : System}
    (found : ∀ task, OwnerFound system (system.world.tasks task))
    (sound : system.world.Sound env) (action : SystemAction) : MarksOwner system action := by
  cases action with
  | resolve paymentHash outcome => trivial
  | daemon action =>
      cases action with
      | act task action =>
          intro _ move row moves succeeds foundRow _
          have owns : ∀ payment : PaymentRecord,
              Stored system.world.db payment → payment.id = move.paymentId →
              (system.world.tasks task).found = some payment →
              ∃ record, system.ledger.records row.paymentHash = some record ∧
                record.owner = row.id := by
            rintro payment ⟨kept, foundKept, -, -, hash⟩ same is
            rw [same] at foundKept
            cases foundKept.symm.trans foundRow
            obtain ⟨record, shown, owner, -⟩ := found task payment is
            rw [← hash] at shown
            exact ⟨record, shown, owner.trans (same.trans (lookup_some foundRow).2.symm)⟩
          have held := sound.tasks task
          generalize system.world.tasks task = current at moves owns held
          cases current with
          | idle => cases moves
          | send projectId idempotencyKey phase =>
              cases phase with
              | persist prepared payment =>
                  cases moves
                  cases succeeds
              | refuse prepared payment error =>
                  cases moves
                  cases succeeds
              | _ => cases moves
          | reconcile payment phase rest =>
              cases phase with
              | look => cases moves
              | passPending nodeView next resolution =>
                  cases moves
                  cases succeeds
              | settle nodeView next resolution =>
                  cases moves
                  cases succeeds
                  exact owns payment (held.1 payment List.mem_cons_self) rfl rfl
          | event event known phase =>
              cases phase with
              | apply outcome payment =>
                  cases moves
                  exact owns payment held.2.2.2 rfl (if_pos succeeds)
              | _ => cases moves
      | _ => trivial

/-- **The payment that was sent is found.** In a run in which every success that is looked up
finds the payment that was sent, that payment is marked as succeeded. -/
theorem marksOwner_of_findsOwner {env : Env} {system : System}
    (reached : (lightning env).ReachableBy FindsOwner system) :
    (lightning env).ReachableBy MarksOwner system := by
  have found : ∀ system, (lightning env).ReachableBy FindsOwner system →
      ∀ task, OwnerFound system (system.world.tasks task) := by
    intro system reached
    refine reached.invariant (fun system => ∀ task, OwnerFound system (system.world.tasks task))
      ?_ ?_
    · rintro _ rfl task payment is
      cases is
    · intro system action next earlier found met step
      exact OwnerFound.step found (sound_of_reachable (daemon_reachable earlier))
        (told_of_reachable earlier) met (systemStepped_of_step step)
  induction reached with
  | start initial => exact .start initial
  | step earlier met step ih =>
      exact ih.step (OwnerFound.marks (found _ earlier)
        (sound_of_reachable (daemon_reachable earlier.reachable)) _) step

/-! ## One success -/

/-- The succeeded payments. -/
def succeededRows (db : Db) : List PaymentRow :=
  db.outgoingPayments.filter fun row => row.status = .succeeded

theorem Settled.distinct {system : System} (settled : Settled system)
    (keyed : PaymentKeys system.world.db.outgoingPayments) :
    KeyUnique (fun row : PaymentRow => row.paymentHash) (succeededRows system.world.db) := by
  have rows : (succeededRows system.world.db).Nodup := (List.Nodup.of_map _ keyed.ids).filter _
  refine List.Nodup.map_on ?_ rows
  intro first firstMember second secondMember same
  obtain ⟨firstStored, firstSucceeded⟩ := List.mem_filter.mp firstMember
  obtain ⟨secondStored, secondSucceeded⟩ := List.mem_filter.mp secondMember
  obtain ⟨record, found, firstOwner, -⟩ := settled first.id first
    (keyed.ids.lookup_eq_some.mpr ⟨firstStored, rfl⟩) (of_decide_eq_true firstSucceeded)
  obtain ⟨other, foundOther, secondOwner, -⟩ := settled second.id second
    (keyed.ids.lookup_eq_some.mpr ⟨secondStored, rfl⟩) (of_decide_eq_true secondSucceeded)
  rw [same] at found
  cases found.symm.trans foundOther
  exact keyed.ids.eq_of_key firstStored secondStored (firstOwner.symm.trans secondOwner)

/-- **One success for one payment hash.** In every run of the daemon and its node in
which each payment that is marked as succeeded is the one whose dispatch the node
accepted: at most one payment of a hash is succeeded, and what was sent and paid in
fees, summed over any projects, is summed over payments of different hashes. -/
theorem succeeded_once {env : Env} {system : System}
    (reached : (lightning env).ReachableBy MarksOwner system) :
    (∀ paymentHash, system.world.db.outgoingPayments.countP
      (fun row => row.paymentHash = paymentHash ∧ row.status = .succeeded) ≤ 1) ∧
    (∀ (projects : List String) (totals : String → Totals), projects.Nodup →
      (∀ project ∈ projects, system.world.db.projectTotals project = .ok (totals project)) →
      ∃ counted : List PaymentRow, (counted.map fun row => row.paymentHash).Nodup ∧
        (∀ row ∈ counted, row ∈ system.world.db.outgoingPayments ∧ row.status = .succeeded) ∧
        (projects.map fun project => (totals project).lightningSentMsat).sum =
          sumOf (fun row => some row.amountMsat) counted ∧
        (projects.map fun project => (totals project).lightningFeesMsat).sum =
          sumOf (fun row => row.feeMsat) counted) := by
  have distinct := (settled_of_reachableBy reached).distinct
    (keys_of_reachable (daemon_reachable reached.reachable))
  refine ⟨?_, ?_⟩
  · intro paymentHash
    have once := distinct.countP_eq paymentHash fun _ => True
    rw [succeededRows, List.countP_filter] at once
    simp only [and_true, ← Bool.decide_and] at once
    rw [once]
    split
    · exact le_refl 1
    · exact Nat.zero_le 1
  · intro projects totals different queried
    refine ⟨system.world.db.succeededOf projects, ?_, ?_,
      sum_lightningSentMsat different queried, sum_lightningFeesMsat different queried⟩
    · have narrower : (system.world.db.succeededOf projects).Sublist
          (succeededRows system.world.db) := by
        refine List.monotone_filter_right _ fun row counts => ?_
        exact decide_eq_true (of_decide_eq_true counts).2
      exact (narrower.map _).nodup distinct
    · intro row member
      obtain ⟨stored, counts⟩ := List.mem_filter.mp member
      exact ⟨stored, (of_decide_eq_true counts).2⟩

/-- The newer of two payments is sent and the node refuses the other. A reconciliation reads the
newer one, and the event that reports its success finds it before the reconciliation writes. -/
def settledActions : List SystemAction :=
  [.daemon (.act 1 (.begin_ 1 "pay_2")), .daemon (.act 1 (.persist 2)),
    .daemon (.act 0 (.begin_ 3 "pay_1")), .daemon (.act 0 (.persist 4)),
    .daemon (.act 0 (.dispatch (.ok "node_1"))),
    .daemon (.act 1 (.dispatch (.error .duplicatePayment))),
    .resolve regtestInvoice.paymentHash regtestPaid,
    .daemon (.act 3 (.reconcile "prj_1" "pay_1")), .daemon (.act 3 (.look (some regtestPaid))),
    .daemon (.act 2 (.deliver regtestSuccess)), .daemon (.act 2 (.pick "pay_1")),
    .daemon (.act 2 (.apply 5)), .daemon (.act 3 (.settle 6)), .daemon (.act 1 (.refuse 7))]

theorem settledActions_findsOwner :
    (lightning regtest).StepsMeet FindsOwner ⟨twoRequests, {}⟩ settledActions := by
  refine .cons trivial rfl (.cons trivial rfl (.cons trivial rfl (.cons trivial rfl
    (.cons trivial rfl (.cons trivial rfl (.cons trivial rfl (.cons trivial rfl
    (.cons ?_ rfl (.cons trivial rfl (.cons ?_ rfl (.cons trivial rfl (.cons trivial rfl
    (.cons trivial rfl (.nil _))))))))))))))
  · intro payment rest here _
    cases here
    exact ⟨_, rfl, rfl⟩
  · intro event known outcome payment here resolves _ found
    cases here
    cases resolves
    cases found
    exact ⟨_, rfl, rfl⟩

theorem succeeded_once_reported : ∃ system,
    (lightning regtest).run ⟨twoRequests, {}⟩ settledActions = some system ∧
    system.world.db.outgoingPayments.map (fun row => (row.paymentHash, row.status)) =
      [(regtestInvoice.paymentHash, .failed), (regtestInvoice.paymentHash, .succeeded)] ∧
    system.world.db.outgoingPayments.countP (fun row =>
      row.paymentHash = regtestInvoice.paymentHash ∧ row.status = .succeeded) ≤ 1 := by
  have ran : (lightning regtest).run ⟨twoRequests, {}⟩ settledActions = some _ := rfl
  have start : (lightning regtest).ReachableBy FindsOwner ⟨twoRequests, {}⟩ :=
    twoRequests_lightning (fun _ _ _ _ _ _ => trivial) fun _ _ _ _ _ _ _ => trivial
  have reached := marksOwner_of_findsOwner
    (Machine.reachableBy_of_run start settledActions_findsOwner ran)
  exact ⟨_, ran, rfl, (succeeded_once reached).1 regtestInvoice.paymentHash⟩

/-- Another payment of the invoice is stored as pending and never sent: the daemon
restarts, and the reconciliation looks at both after the node has paid the first. -/
def reconciledActions : List SystemAction :=
  [.daemon (.act 0 (.begin_ 1 "pay_1")), .daemon (.act 0 (.persist 2)),
    .daemon (.act 0 (.dispatch (.ok "node_1"))), .daemon (.act 1 (.begin_ 3 "pay_2")),
    .daemon (.act 1 (.persist 4)), .daemon .crash,
    .resolve regtestInvoice.paymentHash regtestPaid, .daemon (.act 2 .reconcileAll),
    .daemon (.act 2 (.look (some regtestPaid))), .daemon (.act 2 (.settle 5)),
    .daemon (.act 2 (.look (some regtestPaid))), .daemon (.act 2 (.settle 6))]

theorem succeeded_twice : ∃ system, (lightning regtest).Reachable system ∧
    system.world.db.outgoingPayments.map (fun row => (row.paymentHash, row.status)) =
      [(regtestInvoice.paymentHash, .succeeded), (regtestInvoice.paymentHash, .succeeded)] ∧
    system.world.db.outgoingPayments.countP (fun row =>
      row.paymentHash = regtestInvoice.paymentHash ∧ row.status = .succeeded) = 2 ∧
    (system.world.db.projectTotals "prj_1").map (fun totals => totals.lightningSentMsat) =
      .ok 5_000_000 ∧
    (system.world.db.projectTotals "prj_2").map (fun totals => totals.lightningSentMsat) =
      .ok 5_000_000 := by
  have ran : (lightning regtest).run ⟨twoRequests, {}⟩ reconciledActions = some _ := rfl
  have start : (lightning regtest).Reachable ⟨twoRequests, {}⟩ :=
    twoRequests_lightning (fun _ _ _ _ _ _ => trivial) fun _ _ _ _ _ _ _ => trivial
  exact ⟨_, start.leads (Machine.leads_of_run ran), rfl, rfl, rfl, rfl⟩

end Safrod

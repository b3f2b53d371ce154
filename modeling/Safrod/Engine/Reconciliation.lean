import Safrod.Engine.Progress

/-!
# Reconciliation and failure

A reconciliation decides from the status it read and from the node's record it
looked up, and writes later. `accepted_not_failed` is what that leaves of the
promise that an accepted payment fails only when the node says so: it holds in
every run in which no payment becomes pending between the read and the write of a
reconciliation that found no record (`StillCreated`).

`failed_after_accepted` is a run in which one does.
-/

set_option autoImplicit false

namespace Safrod

open Table Db

/-! ## Reports of failure -/

/-- The node reported the payment hash as failed: in its record, or by an event. -/
def ReportedFailed (paymentHash : String) (log : List Entry) : Prop :=
  (∃ nodeView, Entry.looked paymentHash (some nodeView) ∈ log ∧ nodeView.status = .failed) ∨
    ∃ reason, Entry.delivered (.paymentFailed (some paymentHash) reason) ∈ log

/-- The entry is such a report. -/
def Entry.reportsFailed (paymentHash : String) : Entry → Bool
  | .looked hash (some nodeView) => hash = paymentHash && nodeView.status = .failed
  | .delivered (.paymentFailed (some hash) _) => hash = paymentHash
  | _ => false

theorem ReportedFailed.any {paymentHash : String} {log : List Entry}
    (reported : ReportedFailed paymentHash log) :
    log.any (Entry.reportsFailed paymentHash) = true := by
  rcases reported with ⟨nodeView, member, failed⟩ | ⟨reason, member⟩
  · exact List.any_eq_true.mpr ⟨_, member, by simp [Entry.reportsFailed, failed]⟩
  · exact List.any_eq_true.mpr ⟨_, member, by simp [Entry.reportsFailed]⟩

theorem ReportedFailed.lasts {paymentHash : String} {log more : List Entry}
    (reported : ReportedFailed paymentHash log) (grows : log ⊆ more) :
    ReportedFailed paymentHash more := by
  rcases reported with ⟨nodeView, member, failed⟩ | ⟨reason, member⟩
  · exact .inl ⟨nodeView, grows member, failed⟩
  · exact .inr ⟨reason, grows member⟩

/-- A write of a reconciliation that found no record finds the payment as it was
read, not sent in the meantime. -/
def StillCreated (world : World) : Action → Prop
  | .act task (.settle _) => ∀ payment resolution rest,
      world.tasks task = .reconcile payment (.settle none .failed resolution) rest →
      ∀ row, world.db.findPayment payment.id = some row →
        row.status ≠ .pending ∧ row.status ≠ .unknown
  | _ => True

/-! ## Why a payment is failed -/

/-- The payment was never stored as pending. -/
def NeverPending (id : String) (log : List Entry) : Prop :=
  ∀ author, Entry.stored id .pending author ∉ log

/-- The node refused the payment. -/
def Refused (id : String) (log : List Entry) : Prop :=
  ∃ projectId idempotencyKey paymentHash bolt11 amountMsat error,
    Entry.dispatched projectId idempotencyKey id paymentHash bolt11 amountMsat (.error error) ∈ log

/-- Every failed payment was reported, refused or never on its way; and one that
failed for want of a record was never on its way. -/
structure Explained (world : World) : Prop where
  failed : ∀ id row, world.db.findPayment id = some row → row.status = .failed →
    ReportedFailed row.paymentHash world.log ∨ Refused id world.log ∨ NeverPending id world.log
  unrecorded : ∀ id, Entry.stored id .failed (.reconciler none) ∈ world.log →
    NeverPending id world.log

/-- The reason for a failure that is about to be written. -/
def Because (world : World) (move : Move) (row : PaymentRow) : Prop :=
  (move.author = .reconciler none ∧ NeverPending row.id world.log) ∨
    (move.author ≠ .reconciler none ∧
      (ReportedFailed row.paymentHash world.log ∨ Refused row.id world.log))

section Because

variable {env : Env} {world : World} {task : ℕ} {action : TaskAction} {outcome : Outcome}

/-- Why a task that is about to store a failure does so. -/
theorem failed_because (sound : world.Sound env)
    (acted : Acted env world.db (world.tasks task) action outcome)
    (met : StillCreated world (.act task action)) {move : Move}
    (moves : (world.tasks task).move = some move) (fails : move.next = .failed)
    (writes : outcome.entries ≠ []) {row : PaymentRow}
    (found : world.db.findPayment move.paymentId = some row)
    (legal : row.status.canTransitionTo .failed = true) : Because world move row := by
  obtain ⟨-, rowId⟩ := lookup_some found
  have held := sound.tasks task
  cases here : world.tasks task with
  | idle =>
      rw [here] at moves
      cases moves
  | send projectId idempotencyKey phase =>
      rw [here] at moves held
      cases phase with
      | persist prepared payment =>
          cases moves
          cases fails
      | refuse prepared payment error =>
          cases moves
          refine .inr ⟨by simp, .inr ⟨projectId, idempotencyKey, prepared.paymentHash,
            prepared.bolt11, prepared.amountForNode, error, ?_⟩⟩
          rw [rowId]
          exact held.2
      | _ => cases moves
  | reconcile payment phase rest =>
      rw [here] at moves held acted
      cases phase with
      | look => cases moves
      | passPending nodeView next resolution =>
          cases moves
          cases fails
      | settle nodeView next resolution =>
          cases moves
          obtain ⟨stored, decided, looked⟩ := held
          cases nodeView with
          | none =>
              refine .inl ⟨rfl, ?_⟩
              -- the payment is still created, so nothing else was ever stored of it
              rcases acted.settles with ⟨now, rfl⟩ | silent
              · rw [show next = .failed from fails] at here
                obtain ⟨notPending, notUnknown⟩ := met payment resolution rest here row found
                have created : row.status = .created := by
                  have unresolved := PaymentStatus.canTransitionTo_failed_iff.mp legal
                  rcases PaymentStatus.isFinal_eq_false_iff.mp unresolved with
                    created | pending | unknown
                  · exact created
                  · exact absurd pending notPending
                  · exact absurd unknown notUnknown
                intro author member
                rw [rowId] at member
                cases sound.recorded.created payment.id row found created .pending author member
              · exact absurd silent writes
          | some nodeView =>
              refine .inr ⟨by simp, .inl (.inl ⟨nodeView, ?_, ?_⟩)⟩
              · obtain ⟨stored, foundStored, -, -, hash⟩ := stored payment List.mem_cons_self
                cases foundStored.symm.trans found
                rw [hash]
                exact looked
              · rcases reconcileDecision_final decided with ⟨rfl, -⟩ | ⟨-, failed⟩
                · cases fails
                · exact failed
  | event event known phase =>
      rw [here] at moves held
      cases phase with
      | apply resolving payment =>
          cases moves
          obtain ⟨delivered, resolves, hash, stored, foundStored, -, -, storedHash⟩ := held
          cases foundStored.symm.trans found
          refine .inr ⟨by simp, .inl (.inr ?_)⟩
          cases event with
          | paymentFailed paymentHash reason =>
              cases paymentHash with
              | none => cases resolves
              | some paymentHash =>
                  cases resolves
                  refine ⟨reason, ?_⟩
                  rw [storedHash, hash]
                  exact delivered
          | paymentSuccessful paymentHash preimage feeMsat =>
              cases resolves
              cases fails
          | _ => cases resolves
      | _ => cases moves

end Because

theorem NeverPending.of_silent {id : String} {log entries : List Entry}
    (never : NeverPending id log)
    (silent : ∀ status author, Entry.stored id status author ∈ entries → status ≠ .pending) :
    NeverPending id (entries ++ log) := by
  intro author member
  rcases List.mem_append.mp member with new | old
  · exact silent .pending author new rfl
  · exact never author old

/-- What explains a failure goes on to explain it, while nothing more is stored of
the payment. -/
theorem explanation_lasts {id paymentHash : String} {log entries : List Entry}
    (explained : ReportedFailed paymentHash log ∨ Refused id log ∨ NeverPending id log)
    (silent : ∀ status author, Entry.stored id status author ∈ entries → status ≠ .pending) :
    ReportedFailed paymentHash (entries ++ log) ∨ Refused id (entries ++ log) ∨
      NeverPending id (entries ++ log) := by
  rcases explained with reported | ⟨projectId, key, hash, bolt11, amount, error, member⟩ | never
  · exact .inl (reported.lasts (List.subset_append_right _ _))
  · exact .inr (.inl ⟨projectId, key, hash, bolt11, amount, error,
      List.mem_append_right _ member⟩)
  · exact .inr (.inr (never.of_silent silent))

theorem Explained.of_same {world next : World} (explained : Explained world)
    (entries : List Entry) (log : next.log = entries ++ world.log)
    (same : next.db.outgoingPayments = world.db.outgoingPayments)
    (silent : ∀ id status author, Entry.stored id status author ∉ entries) : Explained next := by
  have found : ∀ id, next.db.findPayment id = world.db.findPayment id := by
    intro id
    rw [findPayment, same, findPayment]
  refine ⟨?_, ?_⟩
  · intro id row here failed
    rw [found] at here
    rw [log]
    exact explanation_lasts (explained.failed id row here failed)
      fun status author member => absurd member (silent id status author)
  · intro id member
    rw [log] at member ⊢
    rcases List.mem_append.mp member with new | old
    · exact absurd new (silent _ _ _)
    · exact (explained.unrecorded id old).of_silent
        fun status author member => absurd member (silent id status author)

theorem Explained.wrote {env : Env} {world next : World} (explained : Explained world)
    (sound : world.Sound env) {task : Task} {entries : List Entry}
    (wrote : Wrote task world.db next.db entries) (log : next.log = entries ++ world.log)
    (because : ∀ move, task.move = some move → move.next = .failed → entries ≠ [] →
      ∀ row, world.db.findPayment move.paymentId = some row →
        row.status.canTransitionTo .failed = true → Because world move row) :
    Explained next := by
  generalize written : next.db = after at wrote
  cases wrote with
  | nothing entries silent => exact explained.of_same entries log (by rw [written]) silent
  | credited paymentHash amountMsat known receives now row found stillOpen unclaimed =>
      refine explained.of_same [] log ?_ (by simp)
      rw [written]
      rfl
  | begun projectId idempotencyKey request prepared begins now id keyFree idFree =>
      have silent : ∀ other status author, Entry.stored other status author ∈
          [.begun projectId idempotencyKey id request, .stored id .created .sender] →
          status ≠ .pending := by
        intro other status author member
        simp only [List.mem_cons, reduceCtorEq, Entry.stored.injEq, List.not_mem_nil, or_false,
          false_or] at member
        rw [member.2.1]
        decide
      refine ⟨?_, ?_⟩
      · intro other row here failed
        rw [written, findPayment_begun world.db idFree] at here
        rw [log]
        by_cases same : id = other
        · rw [if_pos same] at here
          cases here
          cases failed
        · rw [if_neg same] at here
          exact explanation_lasts (explained.failed other row here failed) (silent other)
      · intro other member
        rw [log] at member ⊢
        rcases List.mem_append.mp member with new | old
        · simp at new
        · exact (explained.unrecorded other old).of_silent (silent other)
  | moved move moves now fee row found unclaimed legal entries recorded =>
      have writes : entries ≠ [] := by
        rintro rfl
        cases (recorded row.id move.next move.author).mpr ⟨rfl, rfl, rfl⟩
      have reasons := fun fails => because move moves fails writes row found (fails ▸ legal)
      obtain ⟨-, rowId⟩ := lookup_some found
      rw [← rowId] at found
      have updated := findPayment_of_set found (afterMove_outgoingPayments now move.dedupeKey
        move.next fee move.resolution row world.db)
      -- of every other payment nothing is stored
      have others : ∀ other, row.id ≠ other → ∀ status author,
          Entry.stored other status author ∈ entries → status ≠ .pending := by
        intro other different status author member
        exact absurd ((recorded other status author).mp member).1.symm different
      -- a failure stores nothing but itself
      have silent : move.next = .failed → ∀ status author,
          Entry.stored row.id status author ∈ entries → status ≠ .pending := by
        intro fails status author member
        rw [((recorded row.id status author).mp member).2.1, fails]
        decide
      refine ⟨?_, ?_⟩
      · intro other row' here failed
        rw [written, updated] at here
        rw [log]
        by_cases same : row.id = other
        · rw [if_pos same] at here
          cases here
          have fails : move.next = .failed := failed
          subst same
          refine explanation_lasts ?_ (silent fails)
          rcases reasons fails with ⟨-, never⟩ | ⟨-, reported | refused⟩
          · exact .inr (.inr never)
          · exact .inl reported
          · exact .inr (.inl refused)
        · rw [if_neg same] at here
          exact explanation_lasts (explained.failed other row' here failed) (others other same)
      · intro other member
        rw [log] at member ⊢
        by_cases same : row.id = other
        · subst same
          rcases List.mem_append.mp member with new | old
          · obtain ⟨-, fails, author⟩ := (recorded _ _ _).mp new
            rcases reasons fails.symm with ⟨-, never⟩ | ⟨differs, -⟩
            · exact never.of_silent (silent fails.symm)
            · exact absurd author.symm differs
          · -- only a created payment becomes pending, and this one had failed
            refine (explained.unrecorded row.id old).of_silent ?_
            intro status author member pending
            rw [← ((recorded row.id status author).mp member).2.1, pending] at legal
            have created := PaymentStatus.eq_created_of_canTransitionTo_pending legal
            cases sound.recorded.created row.id row found created .failed _ old
        · rcases List.mem_append.mp member with new | old
          · exact absurd ((recorded _ _ _).mp new).1.symm same
          · exact (explained.unrecorded other old).of_silent (others other same)

/-! ## Runs -/

theorem explained_of_reachableBy {env : Env} {world : World}
    (reached : (daemon env).ReachableBy StillCreated world) : Explained world := by
  refine reached.invariant Explained ?_ ?_
  · rintro _ rfl
    refine ⟨?_, ?_⟩
    · intro id row found
      cases found
    · intro id member
      cases member
  · intro world action next earlier explained met step
    have sound := sound_of_reachable earlier
    cases stepped_of_step step with
    | acted task action outcome acted =>
        refine explained.wrote sound acted.wrote rfl ?_
        intro move moves fails writes row found legal
        exact failed_because sound acted met moves fails writes found legal
    | crashed => exact explained.of_same [] rfl rfl (by simp)
    | called call other =>
        exact explained.of_same [] rfl (perform_routed other world.db).payments
          (by simp)

/-- **An accepted payment fails only when the node says so.** In every run in
which the write of a reconciliation that found no record meets no payment that
became pending since it was read: a payment whose own dispatch the node accepted
is failed only after the node reported its hash as failed; and no payment that
was stored as pending is failed for want of a record. -/
theorem accepted_not_failed {env : Env} {world : World}
    (reached : (daemon env).ReachableBy StillCreated world) :
    (∀ projectId idempotencyKey id paymentHash bolt11 amountMsat nodeId row,
      Entry.dispatched projectId idempotencyKey id paymentHash bolt11 amountMsat (.ok nodeId) ∈
        world.log →
      world.db.findPayment id = some row → row.status = .failed →
      ReportedFailed paymentHash world.log) ∧
    (∀ id author, Entry.stored id .failed (.reconciler none) ∈ world.log →
      Entry.stored id .pending author ∉ world.log) := by
  have explained := explained_of_reachableBy reached
  refine ⟨?_, fun id author member => explained.unrecorded id member author⟩
  intro projectId idempotencyKey id paymentHash bolt11 amountMsat nodeId row accepted found failed
  rcases explained.failed id row found failed with reported | refused | never
  · obtain ⟨stored, foundStored, -, -, hash⟩ :=
      (sound_of_reachable reached.reachable).entries _ accepted
    cases foundStored.symm.trans found
    rw [← hash]
    exact reported
  · -- it was sent once, so it was not refused as well
    obtain ⟨project, key, hash, invoice, amount, error, refused⟩ := refused
    have same := eq_of_countP_le_one ((ownership_of_reachable reached.reachable).once id) accepted
      refused (decide_eq_true rfl) (decide_eq_true rfl)
    cases same
  · obtain ⟨later, earlier, split⟩ := List.append_of_mem accepted
    have suffix : Entry.dispatched projectId idempotencyKey id paymentHash bolt11 amountMsat
        (.ok nodeId) :: earlier <:+ world.log := ⟨later, split.symm⟩
    obtain ⟨author, pending⟩ := pending_before_dispatched reached.reachable suffix
    exact absurd (suffix.subset (List.mem_cons_of_mem _ pending)) (never author)

/-- The node has given up on the payment. -/
def regtestGivenUp : NodePayment where
  status := .failed
  preimage := none
  feeMsat := none

/-- A reconciliation reads the first of two payments before the node accepts it, and writes
after the node has shown that it failed. -/
def reportedActions : List Action :=
  [.act 0 (.begin_ 1 "pay_1"), .act 0 (.persist 2), .act 2 (.reconcile "prj_1" "pay_1"),
    .act 0 (.dispatch (.ok "node_1")), .act 2 (.look (some regtestGivenUp)), .act 2 (.settle 3)]

theorem accepted_not_failed_reported : ∃ world,
    (daemon regtest).run twoRequests reportedActions = some world ∧
    (world.db.findPayment "pay_1").map (fun row => row.status) = some .failed ∧
    ReportedFailed regtestInvoice.paymentHash world.log := by
  have ran : (daemon regtest).run twoRequests reportedActions = some _ := rfl
  have start : (daemon regtest).ReachableBy StillCreated twoRequests :=
    twoRequests_reachableBy (fun _ _ _ _ _ _ => trivial) fun _ _ _ _ _ _ _ => trivial
  have met : (daemon regtest).StepsMeet StillCreated twoRequests reportedActions := by
    refine .cons trivial rfl (.cons trivial rfl (.cons trivial rfl (.cons trivial rfl
      (.cons trivial rfl (.cons ?_ rfl (.nil _))))))
    -- the reconciliation has found a record
    intro payment resolution rest here
    cases here
  have reached := Machine.reachableBy_of_run start met ran
  -- the log, newest first: failed, looked, returned, dispatched
  exact ⟨_, ran, rfl, (accepted_not_failed reached).1 _ _ "pay_1" _ _ _ "node_1" _
    (.tail _ (.tail _ (.tail _ (.head _)))) rfl rfl⟩

/-- A reconciliation reads the payment before the sender stores it as pending and
looks for it before the sender asks the node, and writes after that. -/
def overtakenActions : List Action :=
  [.act 0 (.begin_ 1 "pay_1"), .act 2 (.reconcile "prj_1" "pay_1"), .act 2 (.look none),
    .act 0 (.persist 2), .act 0 (.dispatch (.ok "node_1")), .act 2 (.settle 3)]

theorem failed_after_accepted : ∃ world, (daemon regtest).Reachable world ∧
    Entry.dispatched "prj_1" "key_1" "pay_1" regtestInvoice.paymentHash regtestBolt11 none
      (.ok "node_1") ∈ world.log ∧
    (world.db.findPayment "pay_1").map (fun row => row.status) = some .failed ∧
    ¬ ReportedFailed regtestInvoice.paymentHash world.log ∧
    Entry.stored "pay_1" .pending .sender ∈ world.log ∧
    Entry.stored "pay_1" .failed (.reconciler none) ∈ world.log := by
  have ran : (daemon regtest).run twoRequests overtakenActions = some _ := rfl
  refine ⟨_, twoRequests_reachable.leads (Machine.leads_of_run ran), ?_, rfl, ?_, ?_, ?_⟩
  -- the log, newest first: failed, returned, dispatched, pending, looked
  · exact .tail _ (.tail _ (.head _))
  · intro reported
    cases reported.any
  · exact .tail _ (.tail _ (.tail _ (.head _)))
  · exact .head _

end Safrod

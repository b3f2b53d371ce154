import Safrod.Engine.Progress

/-!
# The daemon and its node

The node keeps one record for a payment hash. It sends no other payment of the
hash while that record is pending or succeeded, shows the record when it is asked
for it, and reports the outcomes of its own payments. `NodeLedger` is such a node
and `lightning` the daemon together with it: what the node says is part of an
action of the daemon, and here the action is enabled only where the node may say
it (`NodeLedger.admits`). It may refuse to send at any time.

The ledger notes of each record which payment was sent for it (`owner`). Neither
party reads that: it is what the statements about runs call the payment of the
record (`owner_dispatched`).

A run of the two is a run of the daemon (`daemon_reachable`).
-/

set_option autoImplicit false

namespace Safrod

open Table Db

/-! ## The node -/

structure NodeRecord where
  view : NodePayment
  /-- The payment whose dispatch was accepted. -/
  owner : String

structure NodeLedger where
  records : String → Option NodeRecord := fun _ => none
  /-- The hashes a payment of which has failed, for the events that report it. -/
  failures : List String := []

namespace NodeLedger

/-- What the node shows of a payment hash. -/
def view (ledger : NodeLedger) (paymentHash : String) : Option NodePayment :=
  (ledger.records paymentHash).map fun record => record.view

/-- No payment of the hash is pending or succeeded. -/
def Free (ledger : NodeLedger) (paymentHash : String) : Prop :=
  ∀ payment, ledger.view paymentHash = some payment → payment.status = .failed

def Succeeded (ledger : NodeLedger) (paymentHash : String) : Prop :=
  ∃ record, ledger.records paymentHash = some record ∧ record.view.status = .succeeded

instance (ledger : NodeLedger) (paymentHash : String) : Decidable (ledger.Free paymentHash) :=
  decidable_of_iff ((ledger.view paymentHash).all fun payment => payment.status = .failed)
    (by simp [Free, Option.all_eq_true])

instance (ledger : NodeLedger) (paymentHash : String) : Decidable (ledger.Succeeded paymentHash) :=
  decidable_of_iff ((ledger.records paymentHash).any fun record => record.view.status = .succeeded)
    (by simp [Succeeded, Option.any_eq_true])

/-- The event reports an outcome of a payment of the node, or no outcome. -/
def reports (ledger : NodeLedger) : NodeEvent → Bool
  | .paymentSuccessful paymentHash _ _ => ledger.Succeeded paymentHash
  | .paymentFailed (some paymentHash) _ => paymentHash ∈ ledger.failures
  | _ => true

/-- The node may let the task take the step. -/
def admits (ledger : NodeLedger) : Task → TaskAction → Bool
  | .send _ _ (.dispatch prepared _ _), .dispatch (.ok _) => ledger.Free prepared.paymentHash
  | .reconcile payment .look _, .look nodeView => nodeView = ledger.view payment.paymentHash
  | _, .deliver nodeEvent => ledger.reports nodeEvent
  | _, _ => true

/-- The record of a payment that was accepted. -/
def accept (ledger : NodeLedger) (paymentHash owner : String) : NodeLedger :=
  { ledger with
    records := Function.update ledger.records paymentHash (some ⟨⟨.pending, none, none⟩, owner⟩) }

/-- The ledger after a step of the task. -/
def after (ledger : NodeLedger) : Task → TaskAction → NodeLedger
  | .send _ _ (.dispatch prepared payment _), .dispatch (.ok _) =>
      ledger.accept prepared.paymentHash payment.id
  | _, _ => ledger

/-- A pending payment goes on, succeeds or fails. -/
def resolve (ledger : NodeLedger) (paymentHash : String) (outcome : NodePayment) :
    Option NodeLedger :=
  match ledger.records paymentHash with
  | none => none
  | some record =>
      if record.view.status = .pending then some {
        records := Function.update ledger.records paymentHash (some { record with view := outcome })
        failures := if outcome.status = .failed then paymentHash :: ledger.failures
          else ledger.failures }
      else none

end NodeLedger

/-! ## Both together -/

structure System where
  world : World := {}
  ledger : NodeLedger := {}

inductive SystemAction where
  | daemon (action : Action)
  | resolve (paymentHash : String) (outcome : NodePayment)

def System.step (env : Env) (system : System) : SystemAction → Option System
  | .daemon (.act task action) =>
      if system.ledger.admits (system.world.tasks task) action then
        (system.world.step env (.act task action)).map fun world =>
          ⟨world, system.ledger.after (system.world.tasks task) action⟩
      else none
  | .daemon action => (system.world.step env action).map fun world => ⟨world, system.ledger⟩
  | .resolve paymentHash outcome =>
      (system.ledger.resolve paymentHash outcome).map fun ledger => ⟨system.world, ledger⟩

/-- Runs of the daemon and its node on a database and a node that start empty. -/
def lightning (env : Env) : Machine System SystemAction where
  initial system := system = {}
  step := System.step env

inductive SystemStepped (env : Env) (system : System) : SystemAction → System → Prop where
  | acted (task : ℕ) (action : TaskAction) (outcome : Outcome)
      (acted : Acted env system.world.db (system.world.tasks task) action outcome)
      (admitted : system.ledger.admits (system.world.tasks task) action = true) :
      SystemStepped env system (.daemon (.act task action))
        ⟨system.world.put task outcome, system.ledger.after (system.world.tasks task) action⟩
  | crashed : SystemStepped env system (.daemon .crash)
      ⟨{ system.world with tasks := fun _ => .idle }, system.ledger⟩
  | called (call : Call) (other : call.isEngine = false) :
      SystemStepped env system (.daemon (.call call))
        ⟨{ system.world with db := system.world.db.perform call }, system.ledger⟩
  | resolved (paymentHash : String) (outcome : NodePayment) (record : NodeRecord)
      (found : system.ledger.records paymentHash = some record)
      (pending : record.view.status = .pending) :
      SystemStepped env system (.resolve paymentHash outcome) ⟨system.world,
        Function.update system.ledger.records paymentHash (some { record with view := outcome }),
        if outcome.status = .failed then paymentHash :: system.ledger.failures
        else system.ledger.failures⟩

theorem systemStepped_of_step {env : Env} {system next : System} {action : SystemAction}
    (step : (lightning env).step system action = some next) :
    SystemStepped env system action next := by
  cases action with
  | daemon action =>
      cases action with
      | act task action =>
          simp only [lightning, System.step] at step
          split at step
          · rename_i admitted
            obtain ⟨world, moved, rfl⟩ := Option.map_eq_some_iff.mp step
            obtain ⟨outcome, acted, rfl⟩ := Option.map_eq_some_iff.mp moved
            exact .acted task action outcome (acted_of_act acted) admitted
          · cases step
      | crash =>
          cases step
          exact .crashed
      | call call =>
          obtain ⟨world, moved, rfl⟩ := Option.map_eq_some_iff.mp step
          have called : (daemon env).step system.world (.call call) = some world := moved
          cases stepped_of_step called with
          | called call other => exact .called call other
  | resolve paymentHash outcome =>
      obtain ⟨ledger, resolved, rfl⟩ := Option.map_eq_some_iff.mp step
      simp only [NodeLedger.resolve] at resolved
      split at resolved
      · cases resolved
      · rename_i record found
        split at resolved
        · rename_i pending
          cases resolved
          exact .resolved paymentHash outcome record found pending
        · cases resolved

/-- **A run of both is a run of the daemon.** -/
theorem daemon_reachable {env : Env} {system : System}
    (reached : (lightning env).Reachable system) : (daemon env).Reachable system.world := by
  refine reached.project System.world ?_ ?_
  · rintro _ rfl
    rfl
  · intro system action next _ step
    cases action with
    | daemon action =>
        refine .inr ⟨action, ?_⟩
        cases action with
        | act task action =>
            simp only [lightning, System.step] at step
            split at step
            · obtain ⟨world, moved, rfl⟩ := Option.map_eq_some_iff.mp step
              exact moved
            · cases step
        | crash =>
            cases step
            rfl
        | call call =>
            obtain ⟨world, moved, rfl⟩ := Option.map_eq_some_iff.mp step
            exact moved
    | resolve paymentHash outcome =>
        obtain ⟨ledger, resolved, rfl⟩ := Option.map_eq_some_iff.mp step
        exact .inl rfl

/-! ## What a step does to a record -/

/-- The changes of the record of one hash: a free hash gets a new record from the
payment that is sent, and a pending one is resolved. -/
inductive RecordChanged (system : System) (action : SystemAction) (paymentHash : String)
    (next : System) : Prop where
  | same (kept : next.ledger.records paymentHash = system.ledger.records paymentHash)
  | accepted (task : ℕ) (projectId idempotencyKey : String) (prepared : Prepared)
      (payment pending : PaymentRecord) (nodeId : String)
      (dispatches : action = .daemon (.act task (.dispatch (.ok nodeId))))
      (sends : system.world.tasks task =
        .send projectId idempotencyKey (.dispatch prepared payment pending))
      (hash : prepared.paymentHash = paymentHash) (free : system.ledger.Free paymentHash)
      (added : next.ledger.records paymentHash = some ⟨⟨.pending, none, none⟩, payment.id⟩)
      (asked : Entry.dispatched projectId idempotencyKey payment.id paymentHash prepared.bolt11
        prepared.amountForNode (.ok nodeId) ∈ next.world.log)
  | resolved (record : NodeRecord) (outcome : NodePayment)
      (found : system.ledger.records paymentHash = some record)
      (pending : record.view.status = .pending) (still : next.world = system.world)
      (set : next.ledger.records paymentHash = some { record with view := outcome })

/-- The ledger changes with an accepted dispatch. -/
theorem NodeLedger.after_cases (ledger : NodeLedger) (task : Task) (action : TaskAction) :
    ledger.after task action = ledger ∨
    ∃ projectId idempotencyKey prepared payment pending nodeId,
      task = .send projectId idempotencyKey (.dispatch prepared payment pending) ∧
      action = .dispatch (.ok nodeId) ∧
      ledger.after task action = ledger.accept prepared.paymentHash payment.id := by
  cases task with
  | send projectId idempotencyKey phase =>
      cases phase with
      | dispatch prepared payment pending =>
          cases action with
          | dispatch answer =>
              cases answer with
              | ok nodeId =>
                  exact .inr ⟨projectId, idempotencyKey, prepared, payment, pending, nodeId, rfl,
                    rfl, rfl⟩
              | error error => exact .inl rfl
          | _ => exact .inl rfl
      | _ => exact .inl rfl
  | _ => exact .inl rfl

theorem SystemStepped.record {env : Env} {system next : System} {action : SystemAction}
    (stepped : SystemStepped env system action next) (paymentHash : String) :
    RecordChanged system action paymentHash next := by
  cases stepped with
  | acted task action outcome acted admitted =>
      rcases system.ledger.after_cases (system.world.tasks task) action with
        same | ⟨projectId, idempotencyKey, prepared, payment, pending, nodeId, sends, rfl, accepts⟩
      · exact .same (congrFun (congrArg NodeLedger.records same) paymentHash)
      · by_cases here : prepared.paymentHash = paymentHash
        · subst here
          rw [sends] at acted admitted
          refine .accepted task projectId idempotencyKey prepared payment pending nodeId rfl sends
            rfl (of_decide_eq_true admitted) ?_ ?_
          · rw [accepts]
            exact Function.update_self _ _ _
          · cases acted with
            | accepted _ _ _ _ _ _ => exact .tail _ (.head _)
        · refine .same ?_
          rw [accepts]
          exact Function.update_of_ne (Ne.symm here) _ _
  | crashed => exact .same rfl
  | called call other => exact .same rfl
  | resolved resolvedHash outcome record found pending =>
      by_cases here : resolvedHash = paymentHash
      · subst here
        exact .resolved record outcome found pending rfl (Function.update_self _ _ _)
      · exact .same (Function.update_of_ne (Ne.symm here) _ _)

theorem SystemStepped.performed {env : Env} {system next : System} {action : SystemAction}
    (stepped : SystemStepped env system action next) :
    next.world.db = system.world.db ∨ ∃ call, next.world.db = system.world.db.perform call := by
  cases stepped with
  | acted task action outcome acted admitted => exact acted.perform
  | crashed => exact .inl rfl
  | called call other => exact .inr ⟨call, rfl⟩
  | resolved paymentHash outcome record found pending => exact .inl rfl

/-- What a step does to the row of one payment. -/
theorem SystemStepped.row {env : Env} {system next : System} {action : SystemAction}
    (stepped : SystemStepped env system action next) (id : String) :
    next.world.db.findPayment id = system.world.db.findPayment id ∨
    ∃ task taskAction outcome, action = .daemon (.act task taskAction) ∧
      Acted env system.world.db (system.world.tasks task) taskAction outcome ∧
      outcome.db = next.world.db ∧
      RowWrote (system.world.tasks task) system.world.db next.world.db id := by
  cases stepped with
  | acted task action outcome acted admitted =>
      exact .inr ⟨task, action, outcome, rfl, acted, rfl, acted.wrote.row id⟩
  | crashed => exact .inl rfl
  | called call other =>
      refine .inl ?_
      rw [findPayment, (perform_routed other system.world.db).payments, findPayment]
  | resolved paymentHash outcome record found pending => exact .inl rfl

/-- A record that succeeded is not touched again. -/
theorem SystemStepped.succeeded {env : Env} {system next : System} {action : SystemAction}
    (stepped : SystemStepped env system action next) {paymentHash : String} {record : NodeRecord}
    (found : system.ledger.records paymentHash = some record)
    (succeeded : record.view.status = .succeeded) :
    next.ledger.records paymentHash = some record := by
  cases stepped.record paymentHash with
  | same kept => exact kept.trans found
  | accepted task projectId idempotencyKey prepared payment pending nodeId dispatches sends hash
      free added asked =>
      have failed := free record.view (by rw [NodeLedger.view, found, Option.map_some])
      rw [succeeded] at failed
      cases failed
  | resolved other outcome here pending still set =>
      cases here.symm.trans found
      rw [succeeded] at pending
      cases pending

theorem SystemStepped.failures {env : Env} {system next : System} {action : SystemAction}
    (stepped : SystemStepped env system action next) :
    system.ledger.failures ⊆ next.ledger.failures := by
  cases stepped with
  | acted task action outcome acted admitted =>
      rcases system.ledger.after_cases (system.world.tasks task) action with
        same | ⟨_, _, _, _, _, _, -, -, accepts⟩
      · rw [same]
        exact List.Subset.refl _
      · rw [accepts]
        exact List.Subset.refl _
  | crashed => exact List.Subset.refl _
  | called call other => exact List.Subset.refl _
  | resolved paymentHash outcome record found pending =>
      intro failed member
      dsimp only
      split
      · exact List.mem_cons_of_mem _ member
      · exact member

/-- What the node may report it may report again. -/
theorem SystemStepped.reports {env : Env} {system next : System} {action : SystemAction}
    (stepped : SystemStepped env system action next) {event : NodeEvent}
    (reports : system.ledger.reports event = true) : next.ledger.reports event = true := by
  cases event with
  | paymentSuccessful paymentHash preimage feeMsat =>
      obtain ⟨record, found, succeeded⟩ := of_decide_eq_true reports
      exact decide_eq_true ⟨record, stepped.succeeded found succeeded, succeeded⟩
  | paymentFailed paymentHash reason =>
      cases paymentHash with
      | none => rfl
      | some paymentHash => exact decide_eq_true (stepped.failures (of_decide_eq_true reports))
  | _ => rfl

/-! ## What the log says of the node -/

/-- The events and the records the daemon was given are those of the node, and the
payment of a record was sent. -/
structure Told (system : System) : Prop where
  delivered : ∀ event, Entry.delivered event ∈ system.world.log →
    system.ledger.reports event = true
  looked : ∀ paymentHash view, Entry.looked paymentHash (some view) ∈ system.world.log →
    view.status = .succeeded → system.ledger.Succeeded paymentHash
  owner : ∀ paymentHash record, system.ledger.records paymentHash = some record →
    ∃ projectId idempotencyKey bolt11 amountMsat nodeId, Entry.dispatched projectId idempotencyKey
      record.owner paymentHash bolt11 amountMsat (.ok nodeId) ∈ system.world.log

theorem SystemStepped.log {env : Env} {system next : System} {action : SystemAction}
    (stepped : SystemStepped env system action next) : system.world.log ⊆ next.world.log := by
  cases stepped with
  | acted task action outcome acted admitted => exact List.subset_append_right _ _
  | crashed => exact List.Subset.refl _
  | called call other => exact List.Subset.refl _
  | resolved paymentHash outcome record found pending => exact List.Subset.refl _

theorem Told.next {env : Env} {system next : System} {action : SystemAction} (told : Told system)
    (stepped : SystemStepped env system action next) : Told next := by
  -- what is new in the log was admitted by the ledger
  have fresh : ∀ entry ∈ next.world.log, entry ∈ system.world.log ∨
      ∃ task taskAction outcome,
        Acted env system.world.db (system.world.tasks task) taskAction outcome ∧
        system.ledger.admits (system.world.tasks task) taskAction = true ∧
        entry ∈ outcome.entries := by
    intro entry member
    cases stepped with
    | acted task action outcome acted admitted =>
        rcases List.mem_append.mp member with new | old
        · exact .inr ⟨task, action, outcome, acted, admitted, new⟩
        · exact .inl old
    | crashed => exact .inl member
    | called call other => exact .inl member
    | resolved paymentHash outcome record found pending => exact .inl member
  refine ⟨?_, ?_, ?_⟩
  · intro event member
    refine stepped.reports ?_
    rcases fresh _ member with old | ⟨task, taskAction, outcome, acted, admitted, new⟩
    · exact told.delivered event old
    · obtain rfl := acted.delivers new
      generalize here : system.world.tasks task = current at acted admitted
      cases acted with
      | delivered event => exact admitted
  · intro paymentHash view member succeeded
    have before : system.ledger.Succeeded paymentHash := by
      rcases fresh _ member with old | ⟨task, taskAction, outcome, acted, admitted, new⟩
      · exact told.looked paymentHash view old succeeded
      · obtain ⟨payment, rest, here, rfl, rfl⟩ := acted.looks new
        rw [here] at admitted
        have shown : some view = system.ledger.view payment.paymentHash :=
          of_decide_eq_true admitted
        obtain ⟨record, found, rfl⟩ := Option.map_eq_some_iff.mp shown.symm
        exact ⟨record, found, succeeded⟩
    obtain ⟨record, found, status⟩ := before
    exact ⟨record, stepped.succeeded found status, status⟩
  · intro paymentHash record found
    have known : (∃ record', system.ledger.records paymentHash = some record' ∧
        record'.owner = record.owner) → ∃ projectId idempotencyKey bolt11 amountMsat nodeId,
        Entry.dispatched projectId idempotencyKey record.owner paymentHash bolt11 amountMsat
          (.ok nodeId) ∈ next.world.log := by
      rintro ⟨record', before, same⟩
      obtain ⟨projectId, idempotencyKey, bolt11, amountMsat, nodeId, member⟩ :=
        told.owner paymentHash record' before
      rw [same] at member
      exact ⟨projectId, idempotencyKey, bolt11, amountMsat, nodeId, stepped.log member⟩
    cases stepped.record paymentHash with
    | same kept => exact known ⟨record, kept.symm.trans found, rfl⟩
    | accepted task projectId idempotencyKey prepared payment pending nodeId dispatches sends hash
        free added asked =>
        cases added.symm.trans found
        exact ⟨projectId, idempotencyKey, prepared.bolt11, prepared.amountForNode, nodeId, asked⟩
    | resolved before outcome here pending still set =>
        cases set.symm.trans found
        exact known ⟨before, here, rfl⟩

/-- **In every run the log agrees with the node.** -/
theorem told_of_reachable {env : Env} {system : System}
    (reached : (lightning env).Reachable system) : Told system := by
  refine reached.invariant Told ?_ ?_
  · rintro _ rfl
    refine ⟨?_, ?_, ?_⟩
    · intro event member
      cases member
    · intro paymentHash view member
      cases member
    · intro paymentHash record found
      cases found
  · intro system action next _ told step
    exact told.next (systemStepped_of_step step)

section Outcomes

variable {ledger : NodeLedger} {event : NodeEvent} {outcome : EventOutcome}

theorem NodeLedger.reports_succeeded (reports : ledger.reports event = true)
    (resolves : outcomeOf event = some outcome) (succeeds : outcome.next = .succeeded) :
    ledger.Succeeded outcome.paymentHash := by
  cases event with
  | paymentSuccessful paymentHash preimage feeMsat =>
      cases resolves
      exact of_decide_eq_true reports
  | paymentFailed paymentHash reason =>
      cases paymentHash with
      | none => cases resolves
      | some paymentHash =>
          cases resolves
          cases succeeds
  | _ => cases resolves

theorem NodeLedger.reports_failed (reports : ledger.reports event = true)
    (resolves : outcomeOf event = some outcome) (fails : outcome.next = .failed) :
    outcome.paymentHash ∈ ledger.failures := by
  cases event with
  | paymentSuccessful paymentHash preimage feeMsat =>
      cases resolves
      cases fails
  | paymentFailed paymentHash reason =>
      cases paymentHash with
      | none => cases resolves
      | some paymentHash =>
          cases resolves
          exact of_decide_eq_true reports
  | _ => cases resolves

end Outcomes

/-! ## Before the node is asked -/

/-- The node, whatever its records, has no part in the step. -/
def Apart (world : World) : Action → Prop
  | .act task action => ∀ ledger : NodeLedger,
      ledger.admits (world.tasks task) action = true ∧
        ledger.after (world.tasks task) action = ledger
  | _ => True

/-- A run in which the node has no part is a run of both. -/
theorem lightning_reachableBy {env : Env} {meets : System → SystemAction → Prop} {world : World}
    (reached : (daemon env).ReachableBy
      (fun world action => Apart world action ∧ meets ⟨world, {}⟩ (.daemon action)) world) :
    (lightning env).ReachableBy meets ⟨world, {}⟩ := by
  induction reached with
  | start initial =>
      cases initial
      exact .start rfl
  | step earlier met step ih =>
      rename_i world next action
      obtain ⟨apart, met⟩ := met
      refine .step ih met ?_
      cases action with
      | act task action =>
          obtain ⟨admits, same⟩ := apart {}
          have moved : World.step env world (.act task action) = some next := step
          simp only [lightning, System.step, admits, if_true, moved, Option.map_some, same]
      | crash =>
          cases step
          rfl
      | call call =>
          have moved : World.step env world (.call call) = some next := step
          simp only [lightning, System.step, moved, Option.map_some]

/-- Two requests for one invoice are prepared without the node. -/
theorem twoRequests_lightning {meets : System → SystemAction → Prop}
    (asks : ∀ world task projectId idempotencyKey request, world.tasks task = .idle →
      meets ⟨world, {}⟩ (.daemon (.act task (.request projectId idempotencyKey request))))
    (parses : ∀ world task clock projectId idempotencyKey request,
      world.tasks task = .send projectId idempotencyKey (.parse request) →
      meets ⟨world, {}⟩ (.daemon (.act task (.parse clock)))) :
    (lightning regtest).ReachableBy meets ⟨twoRequests, {}⟩ := by
  refine lightning_reachableBy (twoRequests_reachableBy ?_ ?_)
  · intro world task projectId idempotencyKey request idle
    refine ⟨?_, asks world task projectId idempotencyKey request idle⟩
    intro ledger
    rw [idle]
    exact ⟨rfl, rfl⟩
  · intro world task clock projectId idempotencyKey request here
    refine ⟨?_, parses world task clock projectId idempotencyKey request here⟩
    intro ledger
    rw [here]
    exact ⟨rfl, rfl⟩

/-- The node pays the hash, with a fee of one satoshi. -/
def regtestPaid : NodePayment where
  status := .succeeded
  preimage := some "preimage"
  feeMsat := some 1000

/-- The event that reports it. -/
def regtestSuccess : NodeEvent :=
  .paymentSuccessful regtestInvoice.paymentHash regtestPaid.preimage regtestPaid.feeMsat

end Safrod

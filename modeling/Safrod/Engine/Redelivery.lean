import Safrod.Engine.Progress

/-!
# Redelivery

`handleNodeEvent` is the handler of a node event when nothing else runs
(`handle_run` says so of the steps of the pump). `redelivered_iff` is when a
second run of it on what the first one left changes nothing: a second delivery
picks a payment anew, so it must find none that can take the outcome
(`SettlesOnce`).

`redelivered_to_another` is an event that two payments of one invoice take, one
after the other.
-/

set_option autoImplicit false

namespace Safrod

open Table Db

/-! ## The handler -/

/-- `handle_node_event`, from its first storage call to its result. -/
def handleNodeEvent (now : DateTime) (tie : String) (event : NodeEvent) (db : Db) :
    Except EventError Unit × Db :=
  match event with
  | .paymentReceived paymentHash amountMsat =>
      match markInvoicePaid now (receivedKey paymentHash) paymentHash amountMsat db with
      | (answer, after) => (eventResult answer, after)
  | event =>
      match outcomeOf event with
      | none => (.ok (), db)
      | some outcome =>
          match db.findUnresolvedPaymentByHash outcome.paymentHash tie with
          | none => (.ok (), db)
          | some payment =>
              match transitionPayment now (some (outcome.dedupeKey payment.id)) payment.id
                  outcome.next outcome.resolution db with
              | (answer, after) => (eventResult answer, after)

section Handler

variable {now : DateTime} {tie : String} {event : NodeEvent} {db : Db}

theorem handle_received (paymentHash : String) (amountMsat : ℕ) :
    handleNodeEvent now tie (.paymentReceived paymentHash amountMsat) db =
      (eventResult (markInvoicePaid now (receivedKey paymentHash) paymentHash amountMsat db).1,
        (markInvoicePaid now (receivedKey paymentHash) paymentHash amountMsat db).2) := rfl

theorem handle_ignored
    (notReceived : ∀ paymentHash amountMsat, event ≠ .paymentReceived paymentHash amountMsat)
    (irrelevant : outcomeOf event = none) : handleNodeEvent now tie event db = (.ok (), db) := by
  cases event with
  | paymentReceived paymentHash amountMsat => exact absurd rfl (notReceived _ _)
  | _ => simp only [handleNodeEvent, irrelevant]

theorem handle_unmatched {outcome : EventOutcome} (resolves : outcomeOf event = some outcome)
    (missing : db.findUnresolvedPaymentByHash outcome.paymentHash tie = none) :
    handleNodeEvent now tie event db = (.ok (), db) := by
  cases event with
  | paymentReceived paymentHash amountMsat => cases resolves
  | _ => simp only [handleNodeEvent, resolves, missing]

theorem handle_picked {outcome : EventOutcome} (resolves : outcomeOf event = some outcome)
    {payment : PaymentRecord}
    (found : db.findUnresolvedPaymentByHash outcome.paymentHash tie = some payment) :
    handleNodeEvent now tie event db =
      (eventResult (transitionPayment now (some (outcome.dedupeKey payment.id)) payment.id
          outcome.next outcome.resolution db).1,
        (transitionPayment now (some (outcome.dedupeKey payment.id)) payment.id outcome.next
          outcome.resolution db).2) := by
  cases event with
  | paymentReceived paymentHash amountMsat => cases resolves
  | _ => simp only [handleNodeEvent, resolves, found]

end Handler

section Pump

variable {env : Env} {world : World} {task : ℕ} {event : NodeEvent} {known : Bool}

theorem step_act {phase : EventPhase} {action : TaskAction} {outcome : Outcome}
    (here : world.tasks task = .event event known phase)
    (acts : Task.act env world.db (.event event known phase) action = some outcome) :
    (daemon env).step world (.act task action) = some (world.put task outcome) := by
  simp only [daemon, World.step, here, acts, Option.map_some]

theorem act_apply (env : Env) (db : Db) (event : NodeEvent) (known : Bool)
    (resolving : EventOutcome) (payment : PaymentRecord) (now : DateTime) : ∃ outcome,
    Task.act env db (.event event known (.apply resolving payment)) (.apply now) = some outcome ∧
      outcome.db = (transitionPayment now (some (resolving.dedupeKey payment.id)) payment.id
        resolving.next resolving.resolution db).2 ∧
      outcome.task = .event event known (.handled (eventResult (transitionPayment now
        (some (resolving.dedupeKey payment.id)) payment.id resolving.next resolving.resolution
        db).1)) := by
  simp only [Task.act, EventPhase.act]
  cases transitionPayment now (some (resolving.dedupeKey payment.id)) payment.id resolving.next
      resolving.resolution db with
  | mk answer after =>
      cases answer with
      | error error => exact ⟨_, rfl, rfl, rfl⟩
      | ok moved => exact ⟨_, rfl, rfl, rfl⟩

/-- **The steps of the pump with an event, undisturbed, are the handler.** -/
theorem handle_run (here : world.tasks task = .event event known .handle) (now : DateTime)
    (tie : String) :
    ∃ actions next, (∀ action ∈ actions, ∃ taskAction, action = .act task taskAction) ∧
      (daemon env).run world actions = some next ∧
      next.db = (handleNodeEvent now tie event world.db).2 ∧
      next.tasks task =
        .event event known (.handled (handleNodeEvent now tie event world.db).1) := by
  -- a handler that ends with one step
  have single : ∀ action, Task.act env world.db (.event event known .handle) action =
      some ⟨(handleNodeEvent now tie event world.db).2,
        .event event known (.handled (handleNodeEvent now tie event world.db).1), []⟩ →
      ∃ actions next, (∀ action ∈ actions, ∃ taskAction, action = .act task taskAction) ∧
        (daemon env).run world actions = some next ∧
        next.db = (handleNodeEvent now tie event world.db).2 ∧
        next.tasks task =
          .event event known (.handled (handleNodeEvent now tie event world.db).1) := by
    intro action acts
    refine ⟨[.act task action], world.put task ⟨(handleNodeEvent now tie event world.db).2,
      .event event known (.handled (handleNodeEvent now tie event world.db).1), []⟩, ?_, ?_, rfl,
      ?_⟩
    · intro other member
      exact ⟨action, List.mem_singleton.mp member⟩
    · exact Machine.run_cons _ [] (step_act here acts)
    · rw [World.put_tasks, if_pos rfl]
  by_cases received : ∃ paymentHash amountMsat, event = .paymentReceived paymentHash amountMsat
  · obtain ⟨paymentHash, amountMsat, rfl⟩ := received
    exact single (.receive now) rfl
  · have notReceived : ∀ paymentHash amountMsat,
        event ≠ .paymentReceived paymentHash amountMsat := by
      intro paymentHash amountMsat same
      exact received ⟨paymentHash, amountMsat, same⟩
    cases resolves : outcomeOf event with
    | none =>
        refine single (.pick tie) ?_
        rw [handle_ignored notReceived resolves]
        cases event with
        | paymentReceived paymentHash amountMsat => exact absurd rfl (notReceived _ _)
        | _ => simp only [Task.act, EventPhase.act, resolves]
    | some outcome =>
        cases found : world.db.findUnresolvedPaymentByHash outcome.paymentHash tie with
        | none =>
            refine single (.pick tie) ?_
            rw [handle_unmatched resolves found]
            cases event with
            | paymentReceived paymentHash amountMsat => exact absurd rfl (notReceived _ _)
            | _ => simp only [Task.act, EventPhase.act, resolves, found]
        | some payment =>
            have picks : Task.act env world.db (.event event known .handle) (.pick tie) =
                some ⟨world.db, .event event known (.apply outcome payment), []⟩ := by
              cases event with
              | paymentReceived paymentHash amountMsat => exact absurd rfl (notReceived _ _)
              | _ => simp only [Task.act, EventPhase.act, resolves, found]
            obtain ⟨last, applies, left, ends⟩ :=
              act_apply env world.db event known outcome payment now
            have picked : (world.put task ⟨world.db, .event event known (.apply outcome payment),
                []⟩).tasks task = .event event known (.apply outcome payment) := by
              rw [World.put_tasks, if_pos rfl]
            refine ⟨[.act task (.pick tie), .act task (.apply now)],
              (world.put task ⟨world.db, .event event known (.apply outcome payment), []⟩).put task
                last, ?_, ?_, ?_, ?_⟩
            · intro action member
              rcases List.mem_cons.mp member with rfl | member
              · exact ⟨_, rfl⟩
              · exact ⟨_, List.mem_singleton.mp member⟩
            · rw [Machine.run_cons _ _ (step_act here picks),
                Machine.run_cons _ _ (step_act picked applies), Machine.run_nil]
            · rw [handle_picked resolves found]
              exact left
            · rw [World.put_tasks, if_pos rfl, handle_picked resolves found]
              exact ends

end Pump

/-- What the handler leaves is the database of another run: the daemon restarts,
and the node delivers the event. -/
theorem handled_reachable {env : Env} {world : World} (reached : (daemon env).Reachable world)
    (now : DateTime) (tie : String) (event : NodeEvent) :
    ∃ next, (daemon env).Reachable next ∧ next.db = (handleNodeEvent now tie event world.db).2 := by
  have crashes : (daemon env).step world .crash = some { world with tasks := fun _ => .idle } := rfl
  have delivers : (daemon env).step { world with tasks := fun _ => .idle }
      (.act 0 (.deliver event)) = some (World.put { world with tasks := fun _ => .idle } 0
        ⟨world.db, .event event (concernsStored world.db event) .handle, [.delivered event]⟩) := rfl
  have here : (World.put { world with tasks := fun _ => .idle } 0 ⟨world.db,
      .event event (concernsStored world.db event) .handle, [.delivered event]⟩).tasks 0 =
        .event event (concernsStored world.db event) .handle := by
    rw [World.put_tasks, if_pos rfl]
  obtain ⟨actions, next, -, ran, left, -⟩ := handle_run here now tie
  exact ⟨next, ((reached.next crashes).next delivers).leads (Machine.leads_of_run ran), left⟩

/-! ## What one delivery does -/

/-- The payment can take the outcome, and its fee fits. -/
def EventOutcome.moves (outcome : EventOutcome) (payment : PaymentRecord) : Bool :=
  payment.status.canTransitionTo outcome.next && outcome.resolution.feeMsat.all (· ≤ i64Max)

/-- The database without a payment. -/
def Db.without (id : String) (db : Db) : Db :=
  { db with outgoingPayments := db.outgoingPayments.filter fun row => ¬ row.id = id }

/-- The query looks at the unresolved payments only. -/
theorem findUnresolvedPaymentByHash_congr {first second : Db} {paymentHash : String}
    (same : first.unresolvedByHash paymentHash = second.unresolvedByHash paymentHash)
    (tie : String) : first.findUnresolvedPaymentByHash paymentHash tie =
      second.findUnresolvedPaymentByHash paymentHash tie := by
  simp only [findUnresolvedPaymentByHash, same]

/-- A payment that became final is not found again. -/
theorem findUnresolvedPaymentByHash_afterMove (now : DateTime) (dedupeKey : Option String)
    {next : PaymentStatus} (final : next.isFinal = true) (fee : Option ℤ)
    (resolution : Resolution) (row : PaymentRow) (db : Db) (paymentHash tie : String) :
    (db.afterMove now dedupeKey next fee resolution row).findUnresolvedPaymentByHash paymentHash
      tie = (db.without row.id).findUnresolvedPaymentByHash paymentHash tie := by
  refine findUnresolvedPaymentByHash_congr ?_ tie
  rw [unresolvedByHash, afterMove_outgoingPayments, filter_updateWhere]
  · rfl
  · intro old _
    simp [Unresolved, final]

section Delivery

variable {env : Env} {world : World} {event : NodeEvent} {outcome : EventOutcome}

/-- A delivery moves the payment it picks when that can take the outcome, and
otherwise changes nothing. -/
theorem handle_outcome (reached : (daemon env).Reachable world)
    (resolves : outcomeOf event = some outcome) (now : DateTime) (tie : String) :
    ((∀ payment, world.db.findUnresolvedPaymentByHash outcome.paymentHash tie = some payment →
        outcome.moves payment = false) ∧
      (handleNodeEvent now tie event world.db).2 = world.db) ∨
    ∃ row fee, world.db.findUnresolvedPaymentByHash outcome.paymentHash tie =
        some row.toPaymentRecord ∧
      world.db.findPayment row.id = some row ∧ outcome.moves row.toPaymentRecord = true ∧
      (handleNodeEvent now tie event world.db).2 = world.db.afterMove now
        (some (outcome.dedupeKey row.id)) outcome.next fee outcome.resolution row := by
  cases picked : world.db.findUnresolvedPaymentByHash outcome.paymentHash tie with
  | none =>
      refine .inl ⟨?_, by rw [handle_unmatched resolves picked]⟩
      intro payment found
      cases found
  | some payment =>
      obtain ⟨row, ⟨member, -⟩, rfl⟩ := findUnresolvedPaymentByHash_some picked
      obtain ⟨stored, -, unresolved⟩ := mem_unresolvedByHash.mp member
      have found : world.db.findPayment row.id = some row :=
        (keys_of_reachable reached).ids.lookup_eq_some.mpr ⟨stored, rfl⟩
      -- the outcome of an unresolved payment was not applied before
      have unclaimed : ¬ world.db.Claimed (outcome.dedupeKey row.id) := by
        intro claimed
        obtain ⟨other, foundOther, final⟩ :=
          outcomeKeys_of_reachable reached event outcome row.id resolves claimed
        cases foundOther.symm.trans found
        rw [unresolved] at final
        cases final
      have handled : (handleNodeEvent now tie event world.db).2 =
          (transitionPayment now (some (outcome.dedupeKey row.id)) row.id outcome.next
            outcome.resolution world.db).2 := by
        rw [handle_picked resolves picked]
      cases call : transitionPayment now (some (outcome.dedupeKey row.id)) row.id outcome.next
          outcome.resolution world.db with
      | mk answer after =>
          rw [call] at handled
          have stays : outcome.moves row.toPaymentRecord = false → after = world.db →
              (∀ payment, some row.toPaymentRecord = some payment →
                outcome.moves payment = false) ∧
              (handleNodeEvent now tie event world.db).2 = world.db := by
            rintro stuck same
            refine ⟨?_, handled.trans same⟩
            rintro _ ⟨⟩
            exact stuck
          cases transitionPayment_moved call with
          | missing absent => cases absent.symm.trans found
          | replayed other here key keyed claimed =>
              cases keyed
              exact absurd claimed unclaimed
          | repeated other here same =>
              cases here.symm.trans found
              refine .inl (stays ?_ rfl)
              rw [EventOutcome.moves, same, PaymentStatus.not_canTransitionTo_self, Bool.false_and]
          | illegal other here illegal =>
              cases here.symm.trans found
              refine .inl (stays ?_ rfl)
              rw [EventOutcome.moves, illegal, Bool.false_and]
          | outOfRange other here legal fee given large =>
              refine .inl (stays ?_ rfl)
              rw [EventOutcome.moves, given, Option.all_some, decide_eq_false (by omega),
                Bool.and_false]
          | moved other here fresh legal fee fits =>
              cases here.symm.trans found
              refine .inr ⟨row, fee, rfl, found, ?_, handled⟩
              rw [EventOutcome.moves, legal, Bool.true_and]
              cases given : outcome.resolution.feeMsat with
              | none => rfl
              | some value => exact decide_eq_true (toI64Option_eq_ok fits given)

end Delivery

/-! ## Two deliveries -/

/-- The invoices, the payments, the events and the deliveries are the same. -/
structure SameRecords (first second : Db) : Prop where
  invoices : second.invoices = first.invoices
  outgoingPayments : second.outgoingPayments = first.outgoingPayments
  events : second.events = first.events
  webhookDeliveries : second.webhookDeliveries = first.webhookDeliveries

theorem SameRecords.refl (db : Db) : SameRecords db db := ⟨rfl, rfl, rfl, rfl⟩

/-- A move is a difference. -/
theorem not_sameRecords_afterMove {now : DateTime} {dedupeKey : Option String}
    {next : PaymentStatus} {fee : Option ℤ} {resolution : Resolution} {row : PaymentRow} {db : Db}
    (found : db.findPayment row.id = some row) (legal : row.status.canTransitionTo next = true) :
    ¬ SameRecords db (db.afterMove now dedupeKey next fee resolution row) := by
  intro same
  have moved := (findPayment_of_set found
    (afterMove_outgoingPayments now dedupeKey next fee resolution row db) row.id).trans (if_pos rfl)
  rw [findPayment, same.outgoingPayments] at moved
  have status : row.status = next :=
    congrArg (fun row : PaymentRow => row.status) (Option.some.inj (found.symm.trans moved))
  rw [status, PaymentStatus.not_canTransitionTo_self] at legal
  cases legal

/-- A payment received is new and its invoice can take it. -/
def Creditable (db : Db) (dedupeKey paymentHash : String) (amountMsat : ℕ) : Prop :=
  ¬ db.Claimed dedupeKey ∧ amountMsat ≤ i64Max ∧
    ∃ row, db.findInvoiceByHash paymentHash = some row ∧ row.status = .open_

theorem markInvoicePaid_cases (now : DateTime) (dedupeKey paymentHash : String) (amountMsat : ℕ)
    (db : Db) :
    (Creditable db dedupeKey paymentHash amountMsat ∧
      (markInvoicePaid now dedupeKey paymentHash amountMsat db).2.Claimed dedupeKey) ∨
    (¬ Creditable db dedupeKey paymentHash amountMsat ∧
      (markInvoicePaid now dedupeKey paymentHash amountMsat db).2 = db) := by
  cases call : markInvoicePaid now dedupeKey paymentHash amountMsat db with
  | mk answer after =>
      cases markInvoicePaid_credited call with
      | credited unclaimed row found stillOpen fits =>
          exact .inl ⟨⟨unclaimed, fits, row, found, stillOpen⟩,
            claimed_withNodeEvent.mpr (.inr rfl)⟩
      | replayed claimed => exact .inr ⟨fun creditable => creditable.1 claimed, rfl⟩
      | missing unclaimed absent =>
          refine .inr ⟨?_, rfl⟩
          rintro ⟨-, -, row, found, -⟩
          cases absent.symm.trans found
      | alreadyPaid unclaimed row found paid =>
          refine .inr ⟨?_, rfl⟩
          rintro ⟨-, -, row', found', stillOpen⟩
          cases found.symm.trans found'
          cases paid.symm.trans stillOpen
      | illegal unclaimed row found expired =>
          refine .inr ⟨?_, rfl⟩
          rintro ⟨-, -, row', found', stillOpen⟩
          cases found.symm.trans found'
          cases expired.symm.trans stillOpen
      | outOfRange unclaimed row found stillOpen large =>
          refine .inr ⟨?_, rfl⟩
          rintro ⟨-, fits, -⟩
          omega

/-- A second call for one payment received changes nothing: the first one claimed
the key, or could not credit it either. -/
theorem markInvoicePaid_twice (now again : DateTime) (dedupeKey paymentHash : String)
    (amountMsat : ℕ) (db : Db) :
    (markInvoicePaid again dedupeKey paymentHash amountMsat
      (markInvoicePaid now dedupeKey paymentHash amountMsat db).2).2 =
      (markInvoicePaid now dedupeKey paymentHash amountMsat db).2 := by
  rcases markInvoicePaid_cases now dedupeKey paymentHash amountMsat db with
    ⟨-, claimed⟩ | ⟨refused, same⟩
  · rcases markInvoicePaid_cases again dedupeKey paymentHash amountMsat
      (markInvoicePaid now dedupeKey paymentHash amountMsat db).2 with ⟨creditable, -⟩ | ⟨-, same⟩
    · exact absurd claimed creditable.1
    · exact same
  · rw [same]
    rcases markInvoicePaid_cases again dedupeKey paymentHash amountMsat db with
      ⟨creditable, -⟩ | ⟨-, same⟩
    · exact absurd creditable refused
    · exact same

/-- The second delivery finds no payment that can take the outcome. The first one
has settled the payment it picked, when that could take it. -/
def SettlesOnce (db : Db) (first second : String) (event : NodeEvent) : Prop :=
  ∀ outcome payment again, outcomeOf event = some outcome →
    db.findUnresolvedPaymentByHash outcome.paymentHash first = some payment →
    (if outcome.moves payment then db.without payment.id else db).findUnresolvedPaymentByHash
      outcome.paymentHash second = some again →
    outcome.moves again = false

/-- **When a second delivery changes nothing.** In every reachable state and for
every event, at any times and whichever of the newest payments the two queries
pick: handling the event again leaves the records as the first handling left
them, exactly when the second one finds no payment that can take the outcome. -/
theorem redelivered_iff {env : Env} {world : World} (reached : (daemon env).Reachable world)
    (event : NodeEvent) (now again : DateTime) (first second : String) :
    SameRecords (handleNodeEvent now first event world.db).2
        (handleNodeEvent again second event (handleNodeEvent now first event world.db).2).2 ↔
      SettlesOnce world.db first second event := by
  by_cases received : ∃ paymentHash amountMsat, event = .paymentReceived paymentHash amountMsat
  · obtain ⟨paymentHash, amountMsat, rfl⟩ := received
    refine iff_of_true ?_ ?_
    · simp only [handle_received, markInvoicePaid_twice]
      exact .refl _
    · rintro outcome payment other ⟨⟩
  · have notReceived : ∀ paymentHash amountMsat,
        event ≠ .paymentReceived paymentHash amountMsat := by
      intro paymentHash amountMsat same
      exact received ⟨paymentHash, amountMsat, same⟩
    cases resolves : outcomeOf event with
    | none =>
        refine iff_of_true ?_ ?_
        · simp only [handle_ignored notReceived resolves]
          exact .refl _
        · intro outcome payment other here
          cases resolves.symm.trans here
    | some outcome =>
        obtain ⟨next, nextReached, left⟩ := handled_reachable reached now first event
        rw [← left]
        -- the second delivery moves the payment it picks, if that can take the outcome
        have settled : SameRecords next.db (handleNodeEvent again second event next.db).2 ↔
            ∀ other, next.db.findUnresolvedPaymentByHash outcome.paymentHash second = some other →
              outcome.moves other = false := by
          rcases handle_outcome nextReached resolves again second with
            ⟨stuck, same⟩ | ⟨row, fee, picked, found, moves, handled⟩
          · rw [same]
            exact iff_of_true (.refl _) stuck
          · rw [handled]
            refine iff_of_false
              (not_sameRecords_afterMove found (Bool.and_eq_true_iff.mp moves).1) ?_
            intro stuck
            rw [stuck _ picked] at moves
            cases moves
        rw [settled]
        rcases handle_outcome reached resolves now first with
          ⟨stuck, same⟩ | ⟨row, fee, picked, found, moves, handled⟩
        · rw [left, same]
          constructor
          · intro ends outcome' payment other here one two
            cases resolves.symm.trans here
            rw [stuck payment one] at two
            exact ends other two
          · intro ends other two
            -- both queries look at the same payments
            cases one : world.db.findUnresolvedPaymentByHash outcome.paymentHash first with
            | none =>
                rw [findUnresolvedPaymentByHash_none] at one
                rw [findUnresolvedPaymentByHash_none.mpr one] at two
                cases two
            | some payment =>
                refine ends outcome payment other resolves one ?_
                rw [stuck payment one]
                exact two
        · rw [left, handled]
          constructor
          · intro ends outcome' payment other here one two
            cases resolves.symm.trans here
            cases picked.symm.trans one
            rw [if_pos moves] at two
            refine ends other ?_
            rw [findUnresolvedPaymentByHash_afterMove _ _ (outcomeOf_final resolves)]
            exact two
          · intro ends other two
            rw [findUnresolvedPaymentByHash_afterMove _ _ (outcomeOf_final resolves)] at two
            refine ends outcome _ other resolves picked ?_
            rw [if_pos moves]
            exact two

/-- The node accepts a payment, and another request for its invoice is about to ask. -/
def bothPendingActions : List Action :=
  [.act 0 (.begin_ 1 "pay_1"), .act 0 (.persist 2), .act 0 (.dispatch (.ok "node_1")),
    .act 1 (.begin_ 3 "pay_2"), .act 1 (.persist 4)]

/-- The node reports the failure of the payment it accepted. -/
def regtestFailed : NodeEvent := .paymentFailed (some regtestInvoice.paymentHash) "no route"

theorem redelivered_iff_refused : ∃ world,
    (daemon regtest).run twoRequests (bothPendingActions.take 3) = some world ∧
    SameRecords (handleNodeEvent 5 "pay_1" regtestFailed world.db).2
      (handleNodeEvent 6 "pay_1" regtestFailed
        (handleNodeEvent 5 "pay_1" regtestFailed world.db).2).2 := by
  have ran : (daemon regtest).run twoRequests (bothPendingActions.take 3) = some _ := rfl
  refine ⟨_, ran, (redelivered_iff (twoRequests_reachable.leads (Machine.leads_of_run ran))
    regtestFailed 5 6 "pay_1" "pay_1").mpr ?_⟩
  -- the first delivery leaves no payment for the second
  rintro outcome payment again ⟨⟩ ⟨⟩ ⟨⟩

theorem redelivered_to_another : ∃ world, (daemon regtest).Reachable world ∧
    world.db.outgoingPayments.map (fun row => row.status) = [.pending, .pending] ∧
    (handleNodeEvent 5 "pay_2" regtestFailed world.db).2.outgoingPayments.map
      (fun row => row.status) = [.pending, .failed] ∧
    (handleNodeEvent 6 "pay_1" regtestFailed
      (handleNodeEvent 5 "pay_2" regtestFailed world.db).2).2.outgoingPayments.map
        (fun row => row.status) = [.failed, .failed] ∧
    ¬ SameRecords (handleNodeEvent 5 "pay_2" regtestFailed world.db).2
      (handleNodeEvent 6 "pay_1" regtestFailed
        (handleNodeEvent 5 "pay_2" regtestFailed world.db).2).2 := by
  have ran : (daemon regtest).run twoRequests bothPendingActions = some _ := rfl
  refine ⟨_, twoRequests_reachable.leads (Machine.leads_of_run ran), rfl, rfl, rfl, ?_⟩
  intro same
  cases congrArg (List.map fun row => row.status) same.outgoingPayments

end Safrod

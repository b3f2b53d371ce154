import Safrod.Api.PayoutProgress
import Safrod.Engine.Idempotency

/-!
# A payout is paid at most once, and only after it succeeded

The node is asked to pay for a payout by the request that has seen it succeeded, in
the slot of that request and under the idempotency key of the payout. The status
says when (`Asked.succeeded`), and the key says how often (`Asked.counted`), since
the engine dispatches a key once. `payout_paid_once` combines them.
-/

set_option autoImplicit false

namespace Safrod

open Table Db

/-! ## The entries of a payout -/

/-- The node was asked to pay for this payout. -/
def PayoutEntry.asks (payoutId : String) : PayoutEntry → Bool
  | .asked id _ _ => id = payoutId
  | .answered _ _ _ _ => false

/-- How often the node was asked to pay for a payout. -/
def asks (payoutId : String) (log : List PayoutEntry) : ℕ :=
  log.countP (PayoutEntry.asks payoutId)

theorem asks_append (payoutId : String) (first second : List PayoutEntry) :
    asks payoutId (first ++ second) = asks payoutId first + asks payoutId second :=
  List.countP_append

theorem asks_eq_zero {payoutId : String} {log : List PayoutEntry} :
    asks payoutId log = 0 ↔ ∀ bolt11 amountMsat, .asked payoutId bolt11 amountMsat ∉ log := by
  rw [asks, List.countP_eq_zero]
  constructor
  · intro silent bolt11 amountMsat member
    exact silent _ member (decide_eq_true rfl)
  · intro silent entry member asked
    cases entry with
    | asked id bolt11 amountMsat =>
        cases of_decide_eq_true asked
        exact silent bolt11 amountMsat member
    | answered projectId origin stored answer => cases asked

/-- Every entry of the node for a payout is one of the engine for its key. -/
theorem asks_askedFor {payoutId id projectId : String} {entries : List Entry}
    (own : ∀ project key paymentId hash bolt11 amountMsat answer,
      Entry.dispatched project key paymentId hash bolt11 amountMsat answer ∈ entries →
        project = projectId ∧ key = payoutKey id) :
    asks payoutId (askedFor id entries) ≤
      if id = payoutId then dispatches projectId (payoutKey payoutId) entries else 0 := by
  induction entries with
  | nil => exact Nat.zero_le _
  | cons head rest ih =>
      have later := ih fun project key paymentId hash bolt11 amountMsat answer member =>
        own project key paymentId hash bolt11 amountMsat answer (List.mem_cons_of_mem head member)
      cases head with
      | dispatched project key paymentId hash bolt11 amountMsat answer =>
          obtain ⟨rfl, rfl⟩ := own project key paymentId hash bolt11 amountMsat answer
            List.mem_cons_self
          by_cases same : id = payoutId
          · subst same
            rw [if_pos rfl] at later ⊢
            simp only [asks, askedFor, dispatches, List.filterMap_cons, List.countP_cons,
              PayoutEntry.asks, Entry.sendsFor, decide_true, Bool.and_self, if_true] at later ⊢
            omega
          · rw [if_neg same] at later ⊢
            simp only [asks, askedFor, List.filterMap_cons, List.countP_cons, PayoutEntry.asks,
              same, decide_false, Bool.false_eq_true, if_false] at later ⊢
            omega
      | _ =>
          simp only [asks, askedFor, dispatches, List.filterMap_cons, List.countP_cons,
            Entry.sendsFor, Bool.false_eq_true, if_false, Nat.add_zero] at later ⊢
          exact later

theorem mem_askedFor {payoutId id bolt11 : String} {amountMsat : Option ℕ} {entries : List Entry}
    (member : PayoutEntry.asked payoutId bolt11 amountMsat ∈ askedFor id entries) :
    payoutId = id ∧ ∃ projectId key paymentId hash answer,
      Entry.dispatched projectId key paymentId hash bolt11 amountMsat answer ∈ entries := by
  obtain ⟨entry, there, shown⟩ := List.mem_filterMap.mp member
  cases entry with
  | dispatched projectId key paymentId hash target amount answer =>
      cases shown
      exact ⟨rfl, projectId, key, paymentId, hash, answer, there⟩
  | _ => cases shown

/-! ## What every run records -/

/-- The entries of `send_payment` in the slot of a payout are of its key. -/
theorem dispatched_of_paysFor {env : Env} {db : Db} {projectId : String} {done : PayoutRecord}
    {task : Task} (pays : PaysFor env db projectId done task) {action : TaskAction}
    {outcome : Outcome} (acted : Acted env db task action outcome)
    {project key paymentId hash bolt11 : String} {amountMsat : Option ℕ}
    {answer : Except LightningError String}
    (member : Entry.dispatched project key paymentId hash bolt11 amountMsat answer ∈
      outcome.entries) :
    project = projectId ∧ key = payoutKey done.id ∧
      ∃ invoice, done.settlementBolt11 = some invoice ∧ bolt11 = trim invoice := by
  obtain ⟨phase, invoice, quote, rfl, settled, -, sends⟩ := pays
  cases acted with
  | accepted _ _ prepared payment pending nodeId =>
      simp only [List.mem_cons, Entry.dispatched.injEq, reduceCtorEq, List.not_mem_nil, or_false,
        false_or] at member
      obtain ⟨rfl, rfl, -, -, rfl, -, -⟩ := member
      obtain ⟨clock, prepares⟩ := sends
      exact ⟨rfl, rfl, invoice, settled, (prepare_target prepares).1⟩
  | refused _ _ prepared payment pending error =>
      simp only [List.mem_cons, Entry.dispatched.injEq, List.not_mem_nil, or_false] at member
      obtain ⟨rfl, rfl, -, -, rfl, -, -⟩ := member
      obtain ⟨clock, prepares⟩ := sends
      exact ⟨rfl, rfl, invoice, settled, (prepare_target prepares).1⟩
  | _ => simp [storedBy] at member

/-- What the log and the payouts say of each other. -/
structure Asked (service : Service) : Prop where
  succeeded : ∀ id bolt11 amountMsat, .asked id bolt11 amountMsat ∈ service.log →
    ∃ row invoice, service.db.findPayout id = some row ∧ row.status = .succeeded ∧
      row.settlementBolt11 = some invoice ∧ bolt11 = trim invoice
  counted : ∀ id row, service.db.findPayout id = some row →
    asks id service.log ≤ dispatches row.projectId (payoutKey id) service.world.log

/-- A succeeded payout stays one. -/
theorem succeeded_lasts {db after : Db} (later : PayoutLater db after) {id : String}
    {row : PayoutRecord} (found : db.findPayout id = some row)
    (succeeded : row.status = .succeeded) :
    ∃ row', after.findPayout id = some row' ∧ PayoutKept row row' ∧ row'.status = .succeeded := by
  obtain ⟨row', found', kept⟩ := later.payouts id row found
  refine ⟨row', found', kept, ?_⟩
  rcases kept.status with same | legal
  · rw [same, succeeded]
  · rw [succeeded] at legal
    cases next : row'.status <;> rw [next] at legal <;> cases legal

theorem conclude_silent {db : Db} {projectId : String} {origin : Origin} {payout : PayoutRecord}
    {id bolt11 : String} {amountMsat : Option ℕ} :
    .asked id bolt11 amountMsat ∉ (conclude db projectId origin payout).entries := by
  cases origin <;> nofun

/-- A step of a payout request outside the engine asks nothing of the node. -/
theorem Proceeds.silent {env : Env} {db : Db} {projectId : String} {origin : Origin}
    {phase : PayoutPhase} {action : PayoutAction} {outcome : RouteOutcome}
    (proceeds : Proceeds env db projectId origin phase action outcome) (id bolt11 : String)
    (amountMsat : Option ℕ) : .asked id bolt11 amountMsat ∉ outcome.entries := by
  cases proceeds with
  | advanced _ _ payout next now row changed after target called =>
      cases phase with
      | begin_ scenario payout =>
          intro member
          cases member
      | succeed payout =>
          simp only [PayoutPhase.advanced]
          split
          · exact conclude_silent
          · intro member
            cases member
      | finish payout next => exact conclude_silent
      | _ => cases target
  | fetched _ paid payout found => exact conclude_silent
  | _ =>
      intro member
      cases member <;> rename_i later <;> cases later

/-- A payout that was never stored was never paid. -/
theorem Asked.none_of_missing {service : Service} (asked : Asked service) {id : String}
    (missing : service.db.findPayout id = none) : asks id service.log = 0 := by
  refine asks_eq_zero.mpr fun bolt11 amountMsat member => ?_
  obtain ⟨row, invoice, found, -⟩ := asked.succeeded id bolt11 amountMsat member
  rw [missing] at found
  cases found

/-- A step that asks for no payout but one in `slot`, of which it asks as often as
the engine does. -/
theorem Asked.next {service next : Service} (asked : Asked service)
    (later : PayoutLater service.db next.db) {entries : List PayoutEntry} {more : List Entry}
    (log : next.log = entries ++ service.log)
    (world : next.world.log = more ++ service.world.log)
    (succeeded : ∀ id bolt11 amountMsat, .asked id bolt11 amountMsat ∈ entries →
      ∃ row invoice, service.db.findPayout id = some row ∧ row.status = .succeeded ∧
        row.settlementBolt11 = some invoice ∧ bolt11 = trim invoice)
    (counted : ∀ id row, service.db.findPayout id = some row →
      asks id entries ≤ dispatches row.projectId (payoutKey id) more) : Asked next := by
  refine ⟨?_, ?_⟩
  · intro id bolt11 amountMsat member
    have before : ∃ row invoice, service.db.findPayout id = some row ∧ row.status = .succeeded ∧
        row.settlementBolt11 = some invoice ∧ bolt11 = trim invoice := by
      rw [log] at member
      rcases List.mem_append.mp member with new | old
      · exact succeeded id bolt11 amountMsat new
      · exact asked.succeeded id bolt11 amountMsat old
    obtain ⟨row, invoice, found, status, settled, target⟩ := before
    obtain ⟨row', found', kept, status'⟩ := succeeded_lasts later found status
    exact ⟨row', invoice, found', status', kept.settlementBolt11.trans settled, target⟩
  · intro id row' found'
    rw [log, asks_append, world, dispatches, List.countP_append, ← dispatches, ← dispatches]
    cases before : service.db.findPayout id with
    | none =>
        have silent : asks id entries = 0 := by
          refine asks_eq_zero.mpr fun bolt11 amountMsat member => ?_
          obtain ⟨row, invoice, found, -⟩ := succeeded id bolt11 amountMsat member
          rw [before] at found
          cases found
        rw [silent, asked.none_of_missing before]
        exact Nat.zero_le _
    | some row =>
        obtain ⟨row'', found'', kept⟩ := later.payouts id row before
        cases found''.symm.trans found'
        rw [kept.projectId]
        exact Nat.add_le_add (counted id row before) (asked.counted id row before)

/-- A step that asks for no payout. -/
theorem Asked.quiet {service next : Service} (asked : Asked service)
    (later : PayoutLater service.db next.db) {entries : List PayoutEntry} {more : List Entry}
    (log : next.log = entries ++ service.log)
    (world : next.world.log = more ++ service.world.log)
    (silent : ∀ id bolt11 amountMsat, .asked id bolt11 amountMsat ∉ entries) : Asked next := by
  refine asked.next later log world ?_ ?_
  · intro id bolt11 amountMsat member
    exact absurd member (silent id bolt11 amountMsat)
  · intro id row _
    rw [asks_eq_zero.mpr (silent id)]
    exact Nat.zero_le _

theorem Sent.mem_entries {projectId : String} {origin : Origin} {done : PayoutRecord}
    {outcome : Outcome} {route : RouteOutcome} (sent : Sent projectId origin done outcome route)
    {id bolt11 : String} {amountMsat : Option ℕ}
    (member : .asked id bolt11 amountMsat ∈ route.entries) :
    .asked id bolt11 amountMsat ∈ askedFor done.id outcome.entries := by
  cases sent with
  | goesOn phase task => exact member
  | returned result member' idle => exact member
  | failed error member' idle =>
      rcases List.mem_cons.mp member with wrong | there
      · cases wrong
      · exact there

theorem Sent.entries {projectId : String} {origin : Origin} {done : PayoutRecord}
    {outcome : Outcome} {route : RouteOutcome} (sent : Sent projectId origin done outcome route) :
    ∀ id, asks id route.entries = asks id (askedFor done.id outcome.entries) := by
  intro id
  cases sent with
  | goesOn phase task => rfl
  | returned result member idle => rfl
  | failed error member idle => exact List.countP_cons_of_neg nofun

theorem Asked.served {env : Env} {service next : Service} {action : ServiceAction}
    (asked : Asked service) (sound : service.Sound env)
    (served : Served env service action next) : Asked next := by
  have later := served.payoutLater
  cases served with
  | engine slot action outcome free acted =>
      exact asked.quiet later (List.nil_append _).symm rfl fun _ _ _ => nofun
  | started slot action projectId origin free idle =>
      exact asked.quiet later rfl (List.nil_append _).symm fun _ _ _ => nofun
  | proceeded slot action projectId origin phase outcome here proceeds =>
      exact asked.quiet later rfl (List.nil_append _).symm proceeds.silent
  | called slot projectId origin done request here idle =>
      exact asked.quiet later rfl rfl fun _ _ _ => nofun
  | paid slot projectId origin done action outcome route here acted after =>
      have acted := acted_of_act acted
      have pays := sound.sends slot projectId origin done here
      have mine := sound.routes slot
      rw [here] at mine
      obtain ⟨row, found, project, -, settlement, -, succeeded⟩ := RouteSound.stored mine done rfl
      have own : ∀ project key paymentId hash bolt11 amountMsat answer,
          Entry.dispatched project key paymentId hash bolt11 amountMsat answer ∈ outcome.entries →
          project = projectId ∧ key = payoutKey done.id ∧
            ∃ invoice, done.settlementBolt11 = some invoice ∧ bolt11 = trim invoice :=
        fun _ _ _ _ _ _ _ member => dispatched_of_paysFor pays acted member
      obtain ⟨phase, invoice, quote, task, settled, -, sends⟩ := pays
      rw [task] at acted
      have sent := sent_of_afterSend acted after
      refine asked.next later rfl rfl ?_ ?_
      · intro id bolt11 amountMsat member
        obtain ⟨rfl, project, key, paymentId, hash, answer, there⟩ :=
          mem_askedFor (sent.mem_entries member)
        obtain ⟨-, -, target, invoiced, trimmed⟩ := own _ _ _ _ _ _ _ there
        exact ⟨row, target, found, succeeded, settlement.trans invoiced, trimmed⟩
      · intro id row' found'
        rw [sent.entries]
        refine (asks_askedFor fun _ _ _ _ _ _ _ member =>
          ⟨(own _ _ _ _ _ _ _ member).1, (own _ _ _ _ _ _ _ member).2.1⟩).trans ?_
        split
        · rename_i same
          subst same
          cases found.symm.trans found'
          rw [project]
        · exact Nat.zero_le _
  | cancelled slot projectId origin phase here =>
      exact asked.quiet later rfl rfl fun _ _ _ => nofun
  | performed action call engine own =>
      exact asked.quiet later (List.nil_append _).symm (List.nil_append _).symm fun _ _ _ => nofun
  | refused action => exact asked
  | crashed =>
      exact asked.quiet later (List.nil_append _).symm (List.nil_append _).symm fun _ _ _ => nofun

theorem asked_of_reachable {env : Env} {service : Service}
    (reached : (payouts env).Reachable service) : Asked service := by
  refine reached.invariant Asked ?_ ?_
  · rintro _ rfl
    exact ⟨fun _ _ _ => nofun, fun _ _ => nofun⟩
  · intro service action next earlier asked step
    exact asked.served (payouts_sound earlier) (served_of_step step)

/-- A step asks for payouts, or writes them. -/
theorem Served.asks {env : Env} {service next : Service} {action : ServiceAction}
    (served : Served env service action next) (id : String) :
    Safrod.asks id next.log = Safrod.asks id service.log ∨
      next.db.sandboxPayouts = service.db.sandboxPayouts := by
  cases served with
  | proceeded slot action projectId origin phase outcome here proceeds =>
      left
      refine (asks_append id outcome.entries service.log).trans ?_
      rw [asks_eq_zero.mpr (proceeds.silent id), Nat.zero_add]
  | paid slot projectId origin done action outcome route here acted after =>
      exact .inr (acted_of_act acted).sameSandbox.payouts
  | _ => exact .inl rfl

/-- A failed payout stays one. -/
theorem failed_lasts {env : Env} {service later : Service}
    (reached : (payouts env).Leads service later) {id : String} {row : PayoutRecord}
    (found : service.db.findPayout id = some row) (failed : row.status = .failed) :
    ∃ row', later.db.findPayout id = some row' ∧ row'.status = .failed := by
  induction reached with
  | refl => exact ⟨row, found, failed⟩
  | tail _ step ih =>
      obtain ⟨before, foundBefore, status⟩ := ih
      obtain ⟨action, step⟩ := step
      obtain ⟨row', found', kept⟩ := (served_of_step step).payoutLater.payouts id before foundBefore
      refine ⟨row', found', ?_⟩
      rcases kept.status with same | legal
      · rw [same, status]
      · rw [status, PayoutStatus.not_canTransitionTo_of_failed] at legal
        cases legal

/-! ## Every run -/

/-- **A payout is paid at most once, after it succeeded, and never after it failed.**
However requests, replays, reconciliations and crashes interleave, the node is asked
at most once to pay for a payout, for its settlement invoice; the step that asks is
taken when the payout is stored as succeeded; and a payout that is stored as failed
was never paid for and never will be. -/
theorem payout_paid_once {env : Env} {service : Service}
    (reached : (payouts env).Reachable service) (payoutId : String) :
    asks payoutId service.log ≤ 1 ∧
    (∀ bolt11 amountMsat, .asked payoutId bolt11 amountMsat ∈ service.log →
      ∃ row invoice, service.db.findPayout payoutId = some row ∧
        row.settlementBolt11 = some invoice ∧ bolt11 = trim invoice) ∧
    (∀ action next, (payouts env).step service action = some next →
      asks payoutId service.log < asks payoutId next.log →
      ∃ row, service.db.findPayout payoutId = some row ∧ row.status = .succeeded) ∧
    ∀ row, service.db.findPayout payoutId = some row → row.status = .failed →
      ∀ later, (payouts env).Leads service later → asks payoutId later.log = 0 := by
  have asked := asked_of_reachable reached
  refine ⟨?_, ?_, ?_, ?_⟩
  · cases stored : service.db.findPayout payoutId with
    | none =>
        rw [asked.none_of_missing stored]
        exact Nat.zero_le 1
    | some row =>
        exact (asked.counted payoutId row stored).trans
          (dispatches_le_one (engine_reachable reached) row.projectId (payoutKey payoutId))
  · intro bolt11 amountMsat member
    obtain ⟨row, invoice, found, -, settled, target⟩ :=
      asked.succeeded payoutId bolt11 amountMsat member
    exact ⟨row, invoice, found, settled, target⟩
  · intro action next step more
    have some_ : asks payoutId next.log ≠ 0 := Nat.ne_of_gt (Nat.zero_lt_of_lt more)
    have paid : ∃ bolt11 amountMsat, .asked payoutId bolt11 amountMsat ∈ next.log := by
      by_contra silent
      exact some_ (asks_eq_zero.mpr fun bolt11 amountMsat member =>
        silent ⟨bolt11, amountMsat, member⟩)
    obtain ⟨bolt11, amountMsat, member⟩ := paid
    obtain ⟨row, -, found, succeeded, -⟩ :=
      (asked_of_reachable (reached.next step)).succeeded payoutId bolt11 amountMsat member
    rcases (served_of_step step).asks payoutId with same | same
    · omega
    · exact ⟨row, by rw [findPayout, ← same]; exact found, succeeded⟩
  · intro row found failed later leads
    obtain ⟨row', found', status⟩ := failed_lasts leads found failed
    refine asks_eq_zero.mpr fun bolt11 amountMsat member => ?_
    obtain ⟨paid, -, foundPaid, succeeded, -⟩ :=
      (asked_of_reachable (reached.leads leads)).succeeded payoutId bolt11 amountMsat member
    cases found'.symm.trans foundPaid
    rw [status] at succeeded
    cases succeeded

/-- A payout that succeeds at once is paid once. -/
theorem payout_paid_once_settled : ∃ service, (payouts settlementEnv).Reachable service ∧
    asks "pot_1" service.log = 1 ∧ asks "pot_1" service.log ≤ 1 := by
  have funds := Machine.reachable_of_run rfl (run_fundedActions settlementEnv)
  have looked : (payouts settlementEnv).run funded
      [.payout 0 (.create "prj_1" "key_1" (regtestPayout .success)),
        .payout 0 .read] = some _ := rfl
  have checked := (funds.leads (Machine.leads_of_run looked)).next
    (Service.step_check 0 regtestMade rfl (checkSettlement_regtest (by decide) rfl))
  have called := checked.leads (Machine.leads_of_run (show (payouts settlementEnv).run _
    [.payout 0 .read, .payout 0 (.reserve 1 regtestMade "pot_1"),
      .payout 0 (.write 2), .payout 0 (.write 3), .payout 0 .read, .payout 0 .call] = some _
    from rfl))
  have parsed := called.next (Service.step_parse 0 regtestMade rfl rfl
    ((prepare_settlement rfl).trans (if_neg (by decide))))
  have paid := parsed.leads (Machine.leads_of_run (show (payouts settlementEnv).run _
    [.payout 0 (.pay (.begin_ 4 "pay_1")), .payout 0 (.pay (.persist 5)),
      .payout 0 (.pay (.dispatch (.ok "node_1"))), .payout 0 (.write 6), .payout 0 .read] = some _
    from rfl))
  exact ⟨_, paid, rfl, (payout_paid_once paid "pot_1").1⟩

end Safrod

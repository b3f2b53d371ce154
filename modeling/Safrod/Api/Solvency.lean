import Mathlib.Algebra.BigOperators.Ring.List
import Mathlib.Algebra.Order.BigOperators.Group.List
import Safrod.Api.PayoutPaid
import Safrod.Api.QuotePrices

/-!
# Settlements are funded

Everything that was topped up in a currency covers, at the simulated price, all the Bitcoin
that the node was ever asked to send for payouts out of it (`settlements_funded`). The ledger
bounds what payouts hold by what was credited, a quote takes at least what its Bitcoin is
worth, and each payout is paid once, with the amount of its quote.
-/

set_option autoImplicit false

namespace Safrod

open Table Db

/-! ## What was topped up -/

/-- The minor units of a currency that a request credits to a project, if it is accepted. -/
def ServiceAction.toppedUp (projectId : String) (currency : Currency) : ServiceAction → ℤ
  | .topup project request =>
      match request.check with
      | .error _ => 0
      | .ok parsed => if project = projectId ∧ parsed = currency then request.minorUnits else 0
  | _ => 0

/-- The minor units that the requests of a run credit. -/
def toppedUpMinor (projectId : String) (currency : Currency) (actions : List ServiceAction) : ℤ :=
  (actions.map (ServiceAction.toppedUp projectId currency)).sum

theorem ServiceAction.toppedUp_nonneg (projectId : String) (currency : Currency)
    (action : ServiceAction) : 0 ≤ action.toppedUp projectId currency := by
  cases action with
  | topup project request =>
      simp only [toppedUp]
      split
      · exact Int.le_refl 0
      · split
        · exact Int.natCast_nonneg _
        · exact Int.le_refl 0
  | _ => exact Int.le_refl 0

theorem toppedUpMinor_snoc (projectId : String) (currency : Currency)
    (actions : List ServiceAction) (action : ServiceAction) :
    toppedUpMinor projectId currency (actions ++ [action]) =
      toppedUpMinor projectId currency actions + action.toppedUp projectId currency := by
  simp only [toppedUpMinor, List.map_append, List.sum_append, List.map_cons, List.map_nil,
    List.sum_cons, List.sum_nil, Int.add_zero]

theorem Currency.code_injective {first second : Currency} (same : first.code = second.code) :
    first = second := by
  have parsed := first.parse_code
  rw [same, second.parse_code] at parsed
  exact (Except.ok.inj parsed).symm

/-! ## The credits of a step -/

/-- The balances stay what was credited less what payouts hold, with the same credits. -/
def KeepsCredits (db after : Db) : Prop :=
  ∀ credits, Ledger db credits → Ledger after credits

theorem KeepsCredits.refl (db : Db) : KeepsCredits db db := fun _ ledger => ledger

theorem KeepsCredits.of_same {db after : Db} (same : SameSandbox db after) :
    KeepsCredits db after := fun _ ledger => ledger.same same

/-- A step of a payout request credits nothing. -/
theorem Proceeds.keepsCredits {env : Env} {db : Db} {projectId : String} {origin : Origin}
    {phase : PayoutPhase} {action : PayoutAction} {outcome : RouteOutcome}
    (proceeds : Proceeds env db projectId origin phase action outcome) :
    KeepsCredits db outcome.db := by
  intro credits ledger
  cases proceeds with
  | reserved key request scenario now clock payoutId payout after called =>
      rcases reserveQuote_cases called with
        ⟨⟨error, wrong⟩, -⟩ | ⟨quote, row, taken, checked, written, -⟩
      · cases wrong
      · obtain ⟨member, project, id, -⟩ := takeQuote_eq_ok taken
        exact ledger.reserved member project id (checkBalance_eq_ok checked) written
  | advanced _ _ payout next now row changed after target called =>
      rw [PayoutPhase.advanced_db]
      cases advancePayout_advanced called with
      | repeated current found same => exact ledger
      | advanced current found legal payout work written =>
          obtain ⟨-, id⟩ := lookup_some found
          rw [← id] at found
          exact ledger.advanced found legal written
  | attached _ done payment now after called =>
      rcases attachPaymentToPayout_cases called with rfl | rfl
      · exact ledger
      · exact ledger.attached now done.id payment.id
  | fetched _ done payout found =>
      rw [conclude_db]
      exact ledger
  | _ => exact ledger

section Steps

variable {env : Env} {service next : Service}

/-- A step in the slot of a payout request credits nothing. -/
theorem keepsCredits_of_stepPayout {slot : ℕ} {route : Route} {action : PayoutAction}
    (step : service.stepPayout env slot route action = some next) :
    KeepsCredits service.db next.db := by
  unfold Service.stepPayout at step
  split at step
  · split at step
    · cases step
      exact .refl _
    · cases step
  · split at step
    · cases step
      exact .refl _
    · cases step
  · cases step
  · cases step
    exact .refl _
  · split at step
    · cases step
      exact .refl _
    · cases step
  · split at step
    · cases step
    · rename_i outcome acted
      obtain ⟨route, after, rfl⟩ := Option.map_eq_some_iff.mp step
      exact .of_same (acted_of_act acted).sameSandbox
  · obtain ⟨outcome, acted, rfl⟩ := Option.map_eq_some_iff.mp step
    exact (proceeds_of_act acted).keepsCredits

theorem perform_of_call {call : Call} (made : service.call env call = some next) :
    next.db = service.db.perform call := by
  obtain ⟨world, step, rfl⟩ := Option.map_eq_some_iff.mp made
  simp only [World.step] at step
  split at step
  · cases step
  · cases step
    rfl

/-- **Only a top-up credits a balance**, and it credits what it says. -/
theorem credits_step {action : ServiceAction}
    (step : (payouts env).step service action = some next) {credits : List Credit}
    (ledger : Ledger service.db credits) : ∃ later, Ledger next.db later ∧
      ∀ projectId currency, creditedMinor later projectId (Currency.code currency) ≤
        creditedMinor credits projectId currency.code + action.toppedUp projectId currency := by
  have same : KeepsCredits service.db next.db → ∃ later, Ledger next.db later ∧
      ∀ projectId currency, creditedMinor later projectId (Currency.code currency) ≤
        creditedMinor credits projectId currency.code + action.toppedUp projectId currency := by
    intro keeps
    refine ⟨credits, keeps credits ledger, fun projectId currency => ?_⟩
    have nonneg := action.toppedUp_nonneg projectId currency
    omega
  cases action with
  | engine slot action =>
      simp only [payouts, Service.step] at step
      split at step
      · cases step
      · obtain ⟨world, stepped, rfl⟩ := Option.map_eq_some_iff.mp step
        obtain ⟨outcome, acted, rfl⟩ := Option.map_eq_some_iff.mp stepped
        exact same (.of_same (acted_of_act acted).sameSandbox)
  | payout slot action => exact same (keepsCredits_of_stepPayout step)
  | createQuote now clock id projectId request =>
      simp only [payouts, Service.step] at step
      split at step
      · cases step
        exact same (.refl _)
      · rename_i new made
        refine same fun credits ledger => ?_
        rw [perform_of_call step]
        cases ended : insertQuote now id new service.db with
        | mk answer after =>
            rw [Db.perform, ended]
            cases insertQuote_inserted ended with
            | refused error => exact ledger
            | inserted positive idFree =>
                exact ledger.quoteInserted (Int.natCast_pos.mpr positive) rfl idFree
  | topup projectId request =>
      simp only [payouts, Service.step] at step
      split at step
      · cases step
        exact same (.refl _)
      · rename_i currency checked
        have made := perform_of_call step
        cases ended : creditSandboxBalance projectId currency.code request.minorUnits
            service.db with
        | mk answer after =>
            rw [Db.perform, ended] at made
            have moved : next.db = after := made
            rcases creditSandboxBalance_cases ended with ⟨-, rfl⟩ | ⟨-, written⟩
            · exact same (moved ▸ .refl _)
            · refine ⟨_, moved ▸ ledger.credited written, fun project other => ?_⟩
              rw [creditedMinor_cons]
              simp only [ServiceAction.toppedUp, checked]
              by_cases here : projectId = project ∧ currency = other
              · rw [if_pos here, if_pos ⟨here.1, congrArg Currency.code here.2⟩]
                omega
              · rw [if_neg here, if_neg fun both =>
                  here ⟨both.1, Currency.code_injective both.2⟩]
                omega
  | other call =>
      simp only [payouts, Service.step] at step
      split at step
      · cases step
      · rename_i own
        refine same (.of_same ?_)
        rw [perform_of_call step]
        exact perform_sameSandbox (Bool.not_eq_true _ ▸ own) service.db
  | crash =>
      cases step
      exact same (.refl _)

/-- **A run credits no more than its top-ups say.** -/
theorem credits_of_run {actions : List ServiceAction}
    (ran : (payouts env).run {} actions = some service) : ∃ credits, Ledger service.db credits ∧
      ∀ projectId currency, creditedMinor credits projectId (Currency.code currency) ≤
        toppedUpMinor projectId currency actions := by
  refine Machine.run_induction (fun actions service => ∃ credits, Ledger service.db credits ∧
    ∀ projectId currency, creditedMinor credits projectId (Currency.code currency) ≤
      toppedUpMinor projectId currency actions) ?_ ?_ ran
  · exact ⟨[], ledger_empty rfl rfl rfl, fun _ _ => Int.le_refl 0⟩
  · rintro actions service action next - ⟨credits, ledger, within⟩ step
    obtain ⟨later, held, added⟩ := credits_step step ledger
    refine ⟨later, held, fun projectId currency => ?_⟩
    rw [toppedUpMinor_snoc]
    have before := within projectId currency
    have now := added projectId currency
    omega

end Steps

/-! ## What was settled -/

/-- The Bitcoin that the node was asked to send for a payout from a balance. -/
def Service.askedMsat (service : Service) (projectId currency : String) (payout : PayoutRecord) :
    ℤ :=
  match service.db.findQuote payout.quoteId with
  | none => 0
  | some quote =>
      if payout.projectId = projectId ∧ quote.sourceCurrency = currency then
        asks payout.id service.log * quote.btcAmountMsat
      else 0

/-- The Bitcoin that the node was asked to send for all payouts from a balance. -/
def Service.settledMsat (service : Service) (projectId currency : String) : ℤ :=
  (service.db.sandboxPayouts.map (service.askedMsat projectId currency)).sum

/-- A quote takes at least what its Bitcoin is worth. -/
theorem Priced.btcAmountMsat_le {row : QuoteRecord} {source target : Currency}
    {priced : QuoteCalc} (price : Priced row source target priced) :
    row.btcAmountMsat * (source.minorPerUsd * simulatedBtcUsd : ℕ) ≤
      row.sourceMinor * msatPerBtc := by
  have sized := (quoted_of_quote price.given).btcAmountMsat
  have floor : priced.btcAmountMsat * (source.minorPerUsd * simulatedBtcUsd) ≤
      row.sourceMinor.toNat * msatPerBtc := by
    rw [sized]
    exact Nat.div_mul_le_self _ _
  rw [price.btcAmountMsat, ← Int.toNat_of_nonneg (Int.le_of_lt price.sourceMinor)]
  exact_mod_cast floor

/-- **What is sent for a payout is covered by what the payout holds.** -/
theorem askedMsat_le {env : Env} {service : Service} (reached : (payouts env).Reachable service)
    (projectId : String) (currency : Currency) {payout : PayoutRecord}
    (stored : payout ∈ service.db.sandboxPayouts) :
    service.askedMsat projectId currency.code payout *
        (currency.minorPerUsd * simulatedBtcUsd : ℕ) ≤
      service.db.heldMinor projectId currency.code payout * msatPerBtc := by
  have asked := asked_of_reachable reached
  have found : service.db.findPayout payout.id = some payout :=
    (payoutIds_of_reachable reached).lookup_eq_some.mpr ⟨stored, rfl⟩
  have once : asks payout.id service.log ≤ 1 := (asked.counted payout.id payout found).trans
    (dispatches_le_one (engine_reachable reached) payout.projectId (payoutKey payout.id))
  cases quoted : service.db.findQuote payout.quoteId with
  | none => simp only [Service.askedMsat, heldMinor, quoted, Int.zero_mul, Int.le_refl]
  | some quote =>
      simp only [Service.askedMsat, heldMinor, quoted]
      obtain ⟨member, -⟩ := lookup_some quoted
      obtain ⟨source, target, priced, price⟩ := priced_of_reachable reached quote member
      have worth := price.btcAmountMsat_le
      have amount := price.amount.1
      by_cases mine : payout.projectId = projectId ∧ quote.sourceCurrency = currency.code
      · have same : source = currency :=
          Currency.code_injective (price.sourceCurrency.symm.trans mine.2)
        subst same
        by_cases failed : payout.status = .failed
        · have none_ : asks payout.id service.log = 0 := by
            refine asks_eq_zero.mpr fun bolt11 amountMsat there => ?_
            obtain ⟨row, invoice, sent, succeeded, -⟩ := asked.succeeded _ _ _ there
            cases found.symm.trans sent
            rw [failed] at succeeded
            cases succeeded
          rw [if_pos mine, none_, if_neg fun open_ => open_.1 failed]
          simp only [Int.natCast_zero, Int.zero_mul, Int.le_refl]
        · rw [if_pos mine, if_pos ⟨failed, mine⟩]
          refine Int.le_trans (Int.mul_le_mul_of_nonneg_right ?_ (Int.natCast_nonneg _)) worth
          have scaled := Int.mul_le_mul_of_nonneg_right (Int.ofNat_le.mpr once)
            (Int.le_of_lt amount)
          rwa [Int.natCast_one, Int.one_mul] at scaled
      · rw [if_neg mine, if_neg fun both => mine both.2, Int.zero_mul, Int.zero_mul]

/-! ## The amount of a settlement -/

/-- A payment of the invoice sends this amount: the one that the invoice has, or else the one
that the node is told. -/
def Carries (env : Env) (bolt11 : String) (amountMsat : Option ℕ) (msat : ℤ) : Prop :=
  ∃ clock parsed amount, env.parseInvoice clock bolt11 = .ok parsed ∧
    parsed.amountMsat.or amountMsat = some amount ∧ (amount : ℤ) = msat

theorem carries_of_prepare {env : Env} {clock : DateTime} {request : SendRequest}
    {prepared : Prepared} (done : prepare env clock request = .ok prepared) {amount : ℕ}
    (asked : request.amountMsat = some amount) :
    Carries env prepared.bolt11 prepared.amountForNode amount := by
  have same := (prepare_target done).2 amount asked
  obtain ⟨parsed, accepted, rest⟩ := Except.exists_of_bind_eq_ok done
  obtain ⟨chosen, choice, rest⟩ := Except.exists_of_bind_eq_ok rest
  obtain ⟨-, -, rest⟩ := Except.exists_of_bind_eq_ok rest
  cases rest
  refine ⟨clock, parsed, amount, Except.eq_ok_of_mapError_eq_ok accepted, ?_, rfl⟩
  cases encoded : parsed.amountMsat with
  | none => exact congrArg some same
  | some own =>
      rw [encoded] at choice
      cases given : request.amountMsat with
      | none => cases asked.symm.trans given
      | some told =>
          rw [given] at choice
          obtain ⟨-, choice⟩ := Except.not_and_of_ite_error choice
          cases choice
          exact congrArg some same

/-- What the engine asks of the node for a payout is the amount of its quote. -/
theorem carries_of_paysFor {env : Env} {db : Db} {projectId : String} {done : PayoutRecord}
    {task : Task} (pays : PaysFor env db projectId done task) {action : TaskAction}
    {outcome : Outcome} (acted : Acted env db task action outcome)
    {project key paymentId hash bolt11 : String} {amountMsat : Option ℕ}
    {answer : Except LightningError String}
    (member : Entry.dispatched project key paymentId hash bolt11 amountMsat answer ∈
      outcome.entries) :
    ∃ quote, db.findQuote done.quoteId = some quote ∧
      Carries env bolt11 amountMsat (asU64 quote.btcAmountMsat : ℕ) := by
  obtain ⟨phase, invoice, quote, rfl, settled, found, sends⟩ := pays
  refine ⟨quote, found, ?_⟩
  cases acted with
  | accepted _ _ prepared payment pending nodeId =>
      simp only [List.mem_cons, Entry.dispatched.injEq, reduceCtorEq, List.not_mem_nil, or_false,
        false_or] at member
      obtain ⟨-, -, -, -, rfl, rfl, -⟩ := member
      obtain ⟨clock, prepares⟩ := sends
      exact carries_of_prepare prepares rfl
  | refused _ _ prepared payment pending error =>
      simp only [List.mem_cons, Entry.dispatched.injEq, List.not_mem_nil, or_false] at member
      obtain ⟨-, -, -, -, rfl, rfl, -⟩ := member
      obtain ⟨clock, prepares⟩ := sends
      exact carries_of_prepare prepares rfl
  | _ => simp [storedBy] at member

/-- The node is asked for what the quote of the payout says. -/
def AskedExactly (env : Env) (db : Db) : PayoutEntry → Prop
  | .asked id bolt11 amountMsat => ∃ row quote, db.findPayout id = some row ∧
      db.findQuote row.quoteId = some quote ∧ Carries env bolt11 amountMsat quote.btcAmountMsat
  | .answered _ _ _ _ => True

theorem AskedExactly.lasts {env : Env} {db after : Db} {entry : PayoutEntry}
    (exact_ : AskedExactly env db entry) (later : PayoutLater db after) :
    AskedExactly env after entry := by
  cases entry with
  | asked id bolt11 amountMsat =>
      obtain ⟨row, quote, found, quoted, carries⟩ := exact_
      obtain ⟨row', found', kept⟩ := later.payouts id row found
      obtain ⟨quote', quoted', same⟩ := later.quotes row.quoteId quote quoted
      refine ⟨row', quote', found', ?_, ?_⟩
      · rw [kept.quoteId]
        exact quoted'
      · rw [same.btcAmountMsat]
        exact carries
  | answered projectId origin stored answer => trivial

/-- What a step adds to the log is asked exactly. -/
theorem Served.askedExactly {env : Env} {service next : Service} {action : ServiceAction}
    (reached : (payouts env).Reachable service) (served : Served env service action next) :
    ∃ entries, next.log = entries ++ service.log ∧
      ∀ entry ∈ entries, AskedExactly env service.db entry := by
  have silent : ∀ entries : List PayoutEntry,
      (∀ id bolt11 amountMsat, .asked id bolt11 amountMsat ∉ entries) →
      ∀ entry ∈ entries, AskedExactly env service.db entry := by
    intro entries silent entry member
    cases entry with
    | asked id bolt11 amountMsat => exact absurd member (silent id bolt11 amountMsat)
    | answered projectId origin stored answer => trivial
  cases served with
  | proceeded slot action projectId origin phase outcome here proceeds =>
      exact ⟨outcome.entries, rfl, silent _ proceeds.silent⟩
  | paid slot projectId origin done action outcome route here acted after =>
      have acted := acted_of_act acted
      have sound := payouts_sound reached
      have pays := sound.sends slot projectId origin done here
      have mine := sound.routes slot
      rw [here] at mine
      obtain ⟨row, found, -, quoteId, -, -, -⟩ := RouteSound.stored mine done rfl
      have sent : Sent projectId origin done outcome route := by
        obtain ⟨phase, -, -, task, -, -, -⟩ := pays
        rw [task] at acted
        exact sent_of_afterSend acted after
      refine ⟨route.entries, rfl, fun entry member => ?_⟩
      cases entry with
      | answered projectId origin stored answer => trivial
      | asked id bolt11 amountMsat =>
          obtain ⟨rfl, _, _, _, _, _, there⟩ := mem_askedFor (sent.mem_entries member)
          obtain ⟨quote, quoted, carries⟩ := carries_of_paysFor pays acted there
          obtain ⟨_, _, _, price⟩ := priced_of_reachable reached quote (lookup_some quoted).1
          refine ⟨row, quote, found, ?_, ?_⟩
          · rw [quoteId]
            exact quoted
          · rw [← price.asU64]
            exact carries
  | _ => exact ⟨[], rfl, fun entry member => absurd member List.not_mem_nil⟩

theorem askedExactly_of_reachable {env : Env} {service : Service}
    (reached : (payouts env).Reachable service) :
    ∀ entry ∈ service.log, AskedExactly env service.db entry := by
  refine reached.invariant (fun service => ∀ entry ∈ service.log,
    AskedExactly env service.db entry) ?_ ?_
  · rintro _ rfl
    exact fun entry member => absurd member List.not_mem_nil
  · intro service action next earlier exact_ step entry member
    have served := served_of_step step
    obtain ⟨entries, log, new⟩ := served.askedExactly earlier
    rw [log] at member
    rcases List.mem_append.mp member with added | old
    · exact (new entry added).lasts served.payoutLater
    · exact (exact_ entry old).lasts served.payoutLater

/-! ## Every run -/

/-- **Settlements are funded.** However quotes, top-ups, payouts, payments and crashes
interleave: what the node is asked to send for a payout is the Bitcoin of its quote, and all
that it was ever asked to send for payouts out of a balance is worth, at the simulated price,
no more than what the project topped this balance up with. -/
theorem settlements_funded {env : Env} {actions : List ServiceAction} {service : Service}
    (ran : (payouts env).run {} actions = some service) :
    (∀ entry ∈ service.log, AskedExactly env service.db entry) ∧
    ∀ projectId currency, service.settledMsat projectId (Currency.code currency) *
        (currency.minorPerUsd * simulatedBtcUsd : ℕ) ≤
      toppedUpMinor projectId currency actions * msatPerBtc := by
  have reached : (payouts env).Reachable service := Machine.reachable_of_run rfl ran
  refine ⟨askedExactly_of_reachable reached, fun projectId currency => ?_⟩
  obtain ⟨credits, ledger, within⟩ := credits_of_run ran
  have held : service.db.reservedMinor projectId currency.code ≤
      creditedMinor credits projectId currency.code := by
    have balance := ledger.balance projectId currency.code
    have nonneg := ledger.nonneg projectId currency.code
    omega
  have covered : service.settledMsat projectId currency.code *
        (currency.minorPerUsd * simulatedBtcUsd : ℕ) ≤
      service.db.reservedMinor projectId currency.code * msatPerBtc := by
    rw [Service.settledMsat, reservedMinor, ← List.sum_map_mul_right, ← List.sum_map_mul_right]
    exact List.sum_le_sum fun payout stored => askedMsat_le reached projectId currency stored
  refine Int.le_trans covered (Int.mul_le_mul_of_nonneg_right ?_ (Int.natCast_nonneg _))
  exact Int.le_trans held (within projectId currency)

/-- Three dollars are topped up, and all of them are settled. -/
theorem settlements_funded_settled : ∃ actions service,
    (payouts settlementEnv).run {} actions = some service ∧
    toppedUpMinor "prj_1" .usd actions = 300 ∧ service.settledMsat "prj_1" "USD" = 5_000_000 ∧
    service.settledMsat "prj_1" "USD" * (Currency.usd.minorPerUsd * simulatedBtcUsd : ℕ) ≤
      toppedUpMinor "prj_1" .usd actions * msatPerBtc := by
  have looked : (payouts settlementEnv).run funded
      [.payout 0 (.create "prj_1" "key_1" (regtestPayout .success)), .payout 0 .read] = some _ :=
    rfl
  have checked := Machine.run_snoc _ looked
    (Service.step_check 0 regtestMade rfl (checkSettlement_regtest (by decide) rfl))
  have called := Machine.run_trans _ checked (show (payouts settlementEnv).run _
    [.payout 0 .read, .payout 0 (.reserve 1 regtestMade "pot_1"),
      .payout 0 (.write 2), .payout 0 (.write 3), .payout 0 .read, .payout 0 .call] = some _
    from rfl)
  have parsed := Machine.run_snoc _ called (Service.step_parse 0 regtestMade rfl rfl
    ((prepare_settlement rfl).trans (if_neg (by decide))))
  have paid := Machine.run_trans _ parsed (show (payouts settlementEnv).run _
    [.payout 0 (.pay (.begin_ 4 "pay_1")), .payout 0 (.pay (.persist 5)),
      .payout 0 (.pay (.dispatch (.ok "node_1"))), .payout 0 (.write 6), .payout 0 .read] = some _
    from rfl)
  have ran := Machine.run_trans _ (run_fundedActions settlementEnv) paid
  refine ⟨_, _, ran, ?_, rfl, (settlements_funded ran).2 "prj_1" .usd⟩
  have usd : Currency.parse "USD" = .ok .usd := Currency.parse_code .usd
  have credited : TopUp.check ⟨"USD", 300⟩ = .ok .usd := by
    rw [TopUp.check, usd]
    rfl
  simp only [toppedUpMinor, fundedActions, List.map_append, List.map_cons, List.map_nil,
    ServiceAction.toppedUp, credited, List.sum_append, List.sum_cons, List.sum_nil]
  decide

end Safrod

import Safrod.Api.BitcoinLeg

/-!
# Requests under one key

What `create_payout` answers when a payout is stored under its `Idempotency-Key`.
The payout is looked for without a lock and late, after checks that can fail by
themselves, and it is not compared with the settlement invoice, so a request can be
answered otherwise than its key promises. `Service.Replays` is what a step of a
request needs so that it is not.

The log tells the story: an answer is recorded with the payout that was stored under
the key when it was given.
-/

set_option autoImplicit false

namespace Safrod

open Table Db

/-! ## What a request is promised -/

/-- The request asks for what the payout was made for. -/
def PayoutRequest.Asks (request : PayoutRequest) (row : PayoutRecord) : Prop :=
  row.quoteId = request.quoteId ∧ row.scenario = request.scenario ∧
    row.settlementBolt11 = request.settlementInvoice

/-- The answer to a request whose key a payout is stored under. -/
structure Replies (request : PayoutRequest) (row : PayoutRecord)
    (answer : Except ApiError PayoutAnswer) : Prop where
  same : request.Asks row → ∃ given, answer = .ok given ∧ given.payout.id = row.id
  differs : ¬ request.Asks row → answer = .error StorageError.idempotencyMismatch.toApiError

/-- What an entry of the log says of the payout that is stored under the key. -/
def PayoutEntry.Promised (db : Db) : PayoutEntry → Prop
  | .answered projectId (.create key request) (some _) answer => ∃ row,
      db.findPayoutByKey projectId key = some row ∧ Replies request row answer
  | _ => True

/-! ## What a step needs -/

/-- A step of a request under a key answers as the key promises. -/
def PayoutPhase.Replays (env : Env) (db : Db) (projectId key : String) (request : PayoutRequest) :
    PayoutPhase → PayoutAction → Prop
  | .lookup, .read => (db.findPayoutByKey projectId key).isSome →
      request.scenario ∈ scenarios ∧ ∃ quote, db.getQuote projectId request.quoteId = .ok quote
  | .checkInvoice _ quote invoice, .check clock => (db.findPayoutByKey projectId key).isSome →
      checkSettlement env clock quote invoice = .ok ()
  | .findPrior _, .read => ∀ prior, db.findPayoutByKey projectId key = some prior →
      prior.quoteId = request.quoteId → prior.scenario = request.scenario →
        prior.settlementBolt11 = request.settlementInvoice
  | .reserve _, .reserve _ _ _ => db.findPayoutByKey projectId key = none
  | .finish payout .failed, .write _ => db.Refundable payout.quoteId
  | _, _ => True

def Service.Replays (env : Env) (service : Service) : ServiceAction → Prop
  | .payout slot (.pay action) =>
      match service.routes slot, service.world.tasks slot with
      | .payout _ (.create _ _) (.pay _), .send projectId idempotencyKey phase =>
          phase.GoesOn env service.db projectId idempotencyKey action
      | _, _ => True
  | .payout slot action =>
      match service.routes slot with
      | .payout projectId (.create key request) phase =>
          phase.Replays env service.db projectId key request action
      | _ => True
  | _ => True

/-! ## Steps of the creating request -/

/-- The payout a request made is the one stored under its key. -/
theorem stored_of_made {db : Db} (keys : PayoutKeys db.sandboxPayouts) {projectId key : String}
    {request : PayoutRequest} {row : PayoutRecord} {id : String}
    (found : db.findPayout id = some row) (project : row.projectId = projectId)
    (made : (Origin.create key request).Made row) :
    db.findPayoutByKey projectId key = some row := by
  refine keys.idempotency.lookup_eq_some.mpr ⟨(lookup_some found).1, ?_⟩
  rw [project, made.1]

/-- An answer with the payout that the request made. -/
theorem promised_of_made {db : Db} (keys : PayoutKeys db.sandboxPayouts) {projectId key : String}
    {request : PayoutRequest} {row : PayoutRecord} {id : String} {given : PayoutAnswer}
    (found : db.findPayout id = some row) (project : row.projectId = projectId)
    (made : (Origin.create key request).Made row) (same : given.payout.id = row.id) :
    PayoutEntry.Promised db (.answered projectId (.create key request)
      ((Origin.create key request).stored db projectId) (.ok given)) := by
  have stored := stored_of_made keys found project made
  rw [Origin.stored, stored]
  exact ⟨row, stored, fun _ => ⟨given, rfl, same⟩, fun other => absurd made.2 other⟩

/-- An answer of a request whose key nothing is stored under. -/
theorem promised_of_none {db : Db} {projectId key : String} {request : PayoutRequest}
    {answer : Except ApiError PayoutAnswer} (none_ : db.findPayoutByKey projectId key = none) :
    PayoutEntry.Promised db (.answered projectId (.create key request)
      ((Origin.create key request).stored db projectId) answer) := by
  rw [Origin.stored, none_]
  trivial

/-- The phases of `reconcile_payout`. -/
def PayoutPhase.reconciles : PayoutPhase → Bool
  | .find | .show_ _ => true
  | _ => false

/-- The steps of a creating request that cannot fail. -/
theorem RouteSound.advances {db : Db} {credits : List Credit} (ledger : Ledger db credits)
    {projectId key : String} {request : PayoutRequest} {phase : PayoutPhase}
    (sound : RouteSound db projectId (.create key request) phase) {payout : PayoutRecord}
    {next : PayoutStatus} (target : phase.advances = some (payout, next))
    (finishing : ∀ payout next, phase = .finish payout next → next = .failed ∨ next = .unknown)
    (fits : ∀ payout, phase = .finish payout .failed → db.Refundable payout.quoteId)
    (now : DateTime) : ∃ row after,
      advancePayout now payout.id next db = (.ok (row, true), after) := by
  obtain ⟨row, found, -, quoteId, -, -, allowed⟩ :=
    sound.stored payout (PayoutPhase.working_of_advances target).2
  obtain ⟨-, same⟩ := lookup_some found
  rw [← same] at found ⊢
  refine ⟨_, advancePayout_legal ledger found ?_ ?_⟩
  · cases phase with
    | begin_ scenario payout =>
        cases target
        rw [allowed.2]
        rfl
    | finish payout next =>
        cases target
        rw [show row.status = .pending from allowed]
        rcases finishing payout next rfl with rfl | rfl <;> rfl
    | succeed payout =>
        cases target
        rw [show row.status = .pending from allowed]
        rfl
    | _ => cases target
  · rintro rfl
    cases phase with
    | finish payout next =>
        cases target
        rw [quoteId]
        exact fits payout rfl
    | _ => cases target

theorem parse_of_mem_scenarios {text : String} (named : text ∈ scenarios) :
    ∃ scenario, Scenario.parse text = .ok scenario := by
  simp only [scenarios, List.mem_cons, List.not_mem_nil, or_false] at named
  rcases named with rfl | rfl | rfl
  · exact ⟨.success, rfl⟩
  · exact ⟨.failure, rfl⟩
  · exact ⟨.timeout, rfl⟩

/-- **A step outside the engine answers as the key promises.** -/
theorem Proceeds.promised {env : Env} {db : Db} {credits : List Credit} (ledger : Ledger db credits)
    (keys : PayoutKeys db.sandboxPayouts) {projectId : String} {origin : Origin}
    {phase : PayoutPhase} {action : PayoutAction} {outcome : RouteOutcome}
    (proceeds : Proceeds env db projectId origin phase action outcome)
    (keysAfter : PayoutKeys outcome.db.sandboxPayouts)
    (sound : RouteSound db projectId origin phase)
    (finishing : ∀ payout next, phase = .finish payout next → next = .failed ∨ next = .unknown)
    (creating : ∀ key request, origin = .create key request → phase.reconciles = false)
    (replays : ∀ key request, origin = .create key request →
      phase.Replays env db projectId key request action) :
    ∀ entry ∈ outcome.entries, entry.Promised outcome.db := by
  cases origin with
  | reconcile id outcome =>
      -- only requests that create a payout are promised anything
      have silent : ∀ db answer, ∀ entry ∈
          (answerWith db projectId (.reconcile id outcome) answer).entries, entry.Promised db := by
        intro db answer entry member
        cases List.mem_singleton.mp member
        trivial
      cases proceeds with
      | refused _ _ action error reason => exact silent db (.error error)
      | advanced _ _ payout next now row changed after target called =>
          cases phase with
          | succeed payout =>
              simp only [PayoutPhase.advanced]
              split <;> exact fun entry member => absurd member List.not_mem_nil
          | begin_ scenario payout => exact fun entry member => absurd member List.not_mem_nil
          | finish payout next => exact fun entry member => absurd member List.not_mem_nil
          | _ => cases target
      | shown _ payout => exact silent db _
      | _ => exact fun entry member => absurd member List.not_mem_nil
  | create key request =>
      have promises := replays key request rfl
      have answered : ∀ db answer,
          PayoutEntry.Promised db (.answered projectId (.create key request)
            ((Origin.create key request).stored db projectId) answer) →
          ∀ entry ∈ (answerWith db projectId (.create key request) answer).entries,
            entry.Promised db := by
        intro db answer promised entry member
        cases List.mem_singleton.mp member
        exact promised
      cases proceeds with
      | refused _ _ action error reason =>
          refine answered db (.error error) ?_
          cases reason with
          | scenario _ _ error parsed =>
              refine promised_of_none (Option.not_isSome_iff_eq_none.mp fun stored => ?_)
              obtain ⟨named, -⟩ := promises stored
              obtain ⟨scenario, known⟩ := parse_of_mem_scenarios named
              rw [known] at parsed
              cases parsed
          | quote _ _ scenario error parsed missing =>
              refine promised_of_none (Option.not_isSome_iff_eq_none.mp fun stored => ?_)
              obtain ⟨-, quote, found⟩ := promises stored
              rw [found] at missing
              cases missing
          | invoice _ scenario quote invoice clock error checked =>
              refine promised_of_none (Option.not_isSome_iff_eq_none.mp fun stored => ?_)
              rw [promises stored] at checked
              cases checked
          | prior _ _ scenario prior error found differs =>
              rw [Origin.stored, found]
              simp only [replayPayout] at differs
              split at differs
              · rename_i other
                cases differs
                refine ⟨prior, found, fun same => ?_, fun _ => rfl⟩
                rcases other with quote | named
                · exact absurd same.1 quote
                · refine absurd (same.2.1.trans ?_) named
                  exact sound.parsed key request scenario rfl rfl
              · cases differs
          | reserve _ _ scenario now clock payoutId error called => exact promised_of_none promises
          | advance _ _ payout next now error target called =>
              obtain ⟨row, after, moved⟩ := sound.advances ledger target finishing
                (fun payout here => by subst here; exact promises) now
              rw [moved] at called
              cases called
          | price _ done invoice error missing =>
              obtain ⟨quote, found⟩ := sound.price_found ledger
              rw [found] at missing
              cases missing
          | attach _ done payment now error called =>
              obtain ⟨after, attached⟩ := sound.attaches now
              rw [attached] at called
              cases called
          | fetch _ done error missing =>
              obtain ⟨row, found, project, -⟩ := sound.stored done rfl
              rw [(getPayout_eq_ok ledger.payoutIds).mpr ⟨found, project⟩] at missing
              cases missing
          | payment _ payout paymentId error attached missing =>
              cases creating key request rfl
      | replayed _ _ scenario prior payout found same =>
          refine answered db (.ok ⟨payout, false⟩) ?_
          rw [Origin.stored, found]
          simp only [replayPayout] at same
          split at same
          · cases same
          · rename_i agrees
            cases same
            obtain ⟨quote, named⟩ := not_or.mp agrees
            have quote := not_not.mp quote
            have named := (not_not.mp named).trans (sound.parsed key request scenario rfl rfl).symm
            refine ⟨_, found, fun _ => ⟨_, rfl, rfl⟩, fun other => ?_⟩
            exact absurd ⟨quote, named, promises prior found quote named⟩ other
      | advanced _ _ payout next now row changed after target called =>
          obtain ⟨status, found, -, current, before, -, kept⟩ := advancePayout_ok called
          obtain ⟨stored, found', project, -, -, made, -⟩ :=
            sound.stored payout (PayoutPhase.working_of_advances target).2
          cases found'.symm.trans before
          have same : row.id = current.id :=
            (lookup_some found).2.trans (lookup_some before).2.symm
          have promised : PayoutEntry.Promised after (.answered projectId (.create key request)
              ((Origin.create key request).stored after projectId) (.ok ⟨row, true⟩)) := by
            rw [PayoutPhase.advanced_db] at keysAfter
            exact promised_of_made keysAfter found (kept.projectId.trans project)
              (made.lasts kept same) rfl
          cases phase with
          | begin_ scenario payout => exact fun entry member => absurd member List.not_mem_nil
          | finish payout next => exact answered after _ promised
          | succeed payout =>
              simp only [PayoutPhase.advanced]
              split
              · exact answered after _ promised
              · exact fun entry member => absurd member List.not_mem_nil
          | _ => cases target
      | fetched _ done payout found =>
          obtain ⟨row, there, project, -, -, made, -⟩ := sound.stored done rfl
          obtain ⟨found, -⟩ := (getPayout_eq_ok ledger.payoutIds).mp found
          cases there.symm.trans found
          exact answered db _ (promised_of_made keys there project made rfl)
      | shown _ payout => cases creating key request rfl
      | _ => exact fun entry member => absurd member List.not_mem_nil

/-! ## Runs -/

/-- A request that creates a payout stays out of the phases of `reconcile_payout`. -/
def Route.Creating : Route → Prop
  | .payout _ (.create _ _) phase => phase.reconciles = false
  | _ => True

theorem conclude_creating (db : Db) (projectId : String) (origin : Origin)
    (payout : PayoutRecord) : (conclude db projectId origin payout).route.Creating := by
  cases origin <;> trivial

theorem Proceeds.creating {env : Env} {db : Db} {projectId : String} {origin : Origin}
    {phase : PayoutPhase} {action : PayoutAction} {outcome : RouteOutcome}
    (proceeds : Proceeds env db projectId origin phase action outcome) :
    outcome.route.Creating := by
  have outside : ∀ next : PayoutPhase, next.reconciles = false →
      (Route.payout projectId origin next).Creating := by
    intro next free
    cases origin with
    | create key request => exact free
    | reconcile id outcome => trivial
  cases proceeds with
  | lookedUp key request scenario quote parsed found =>
      simp only [afterLookup]
      split <;> rfl
  | checked _ scenario quote invoice clock accepted => exact outside _ rfl
  | noPrior key request scenario missing => rfl
  | reserved key request scenario now clock payoutId payout after called => rfl
  | advanced _ _ payout next now row changed after target called =>
      cases phase with
      | begin_ scenario payout => cases scenario <;> exact outside _ rfl
      | succeed payout =>
          simp only [PayoutPhase.advanced]
          split
          · exact conclude_creating after projectId origin row
          · exact outside _ rfl
      | finish payout next => exact conclude_creating after projectId origin row
      | _ => cases target
  | priced _ done invoice quote found => exact outside _ rfl
  | attached _ done payment now after called => exact outside _ rfl
  | fetched _ done payout found => exact conclude_creating db projectId origin payout
  | _ => trivial

theorem creating_of_reachable {env : Env} {service : Service}
    (reached : (payouts env).Reachable service) : ∀ slot, (service.routes slot).Creating := by
  refine reached.invariant (fun service => ∀ slot, (service.routes slot).Creating) ?_ ?_
  · rintro _ rfl
    exact fun _ => trivial
  · intro service action next _ creating step other
    cases served_of_step step with
    | started slot action projectId origin free idle =>
        rw [Service.put_routes]
        split
        · cases origin <;> trivial
        · exact creating other
    | proceeded slot action projectId origin phase outcome here proceeds =>
        rw [Service.put_routes]
        split
        · exact proceeds.creating
        · exact creating other
    | called slot projectId origin done request here idle =>
        rw [Service.putSend_routes]
        split
        · cases origin <;> trivial
        · exact creating other
    | paid slot projectId origin done action outcome route here acted sent =>
        rw [Service.putSend_routes]
        split
        · unfold Service.afterSend at sent
          split at sent
          · cases sent
            cases origin <;> trivial
          · cases sent
            trivial
          · split at sent
            · cases sent
              cases origin <;> trivial
            · cases sent
        · exact creating other
    | cancelled slot projectId origin phase here =>
        rw [Service.putSend_routes]
        split
        · trivial
        · exact creating other
    | crashed => trivial
    | _ => exact creating other

/-- A payout under a key stays there, with what it was made for. -/
theorem findPayoutByKey_lasts {db after : Db} (later : PayoutLater db after)
    (keys : PayoutKeys db.sandboxPayouts) (keysAfter : PayoutKeys after.sandboxPayouts)
    {projectId key : String} {row : PayoutRecord}
    (found : db.findPayoutByKey projectId key = some row) :
    ∃ current, after.findPayoutByKey projectId key = some current ∧ current.id = row.id ∧
      PayoutKept row current := by
  obtain ⟨member, same⟩ := lookup_some found
  obtain ⟨project, idempotency⟩ := Prod.mk.inj same
  have here : db.findPayout row.id = some row := keys.ids.lookup_eq_some.mpr ⟨member, rfl⟩
  obtain ⟨current, there, kept⟩ := later.payouts row.id row here
  refine ⟨current, ?_, (lookup_some there).2, kept⟩
  refine keysAfter.idempotency.lookup_eq_some.mpr ⟨(lookup_some there).1, ?_⟩
  rw [kept.projectId, kept.idempotencyKey, project, idempotency]

/-- What was answered stands. -/
theorem PayoutEntry.Promised.lasts {db after : Db} {entry : PayoutEntry}
    (promised : entry.Promised db) (later : PayoutLater db after)
    (keys : PayoutKeys db.sandboxPayouts) (keysAfter : PayoutKeys after.sandboxPayouts) :
    entry.Promised after := by
  cases entry with
  | asked payoutId bolt11 amountMsat => trivial
  | answered projectId origin stored answer =>
      cases origin with
      | reconcile id outcome => trivial
      | create key request =>
          cases stored with
          | none => trivial
          | some snapshot =>
              obtain ⟨row, found, same, differs⟩ := promised
              obtain ⟨current, there, named, kept⟩ :=
                findPayoutByKey_lasts later keys keysAfter found
              have asks : request.Asks current ↔ request.Asks row := by
                rw [PayoutRequest.Asks, kept.quoteId, kept.scenario, kept.settlementBolt11]
                rfl
              refine ⟨current, there, ?_, ?_⟩
              · rw [asks, named]
                exact same
              · rw [asks]
                exact differs

/-- An entry of the log of `send_payment` for a request that has an answer is no
answer to a request. -/
theorem promised_askedFor {db : Db} {id : String} {entries : List Entry} :
    ∀ entry ∈ askedFor id entries, entry.Promised db := by
  intro entry member
  obtain ⟨source, -, shown⟩ := List.mem_filterMap.mp member
  cases source with
  | dispatched projectId key paymentId hash bolt11 amountMsat answer =>
      cases shown
      trivial
  | _ => cases shown

/-- `send_payment` is stepped by the engine. -/
theorem Proceeds.not_pays {env : Env} {db : Db} {projectId : String} {origin : Origin}
    {phase : PayoutPhase} {action : TaskAction} {outcome : RouteOutcome} :
    ¬ Proceeds env db projectId origin phase (.pay action) outcome := by
  intro proceeds
  cases proceeds with
  | refused _ _ _ error reason => cases reason

/-- **A step of the service answers as the keys promise.** -/
theorem Served.promised {env : Env} {service next : Service} {action : ServiceAction}
    (served : Served env service action next) (replays : service.Replays env action)
    (reached : (payouts env).Reachable service) (keysAfter : PayoutKeys next.db.sandboxPayouts) :
    ∃ entries, next.log = entries ++ service.log ∧ ∀ entry ∈ entries, entry.Promised next.db := by
  have sound := payouts_sound reached
  obtain ⟨credits, ledger⟩ := ledger_of_reachable (storage_of_payouts reached)
  have keys := payoutKeys_of_reachable (storage_of_payouts reached)
  have silent : ∀ entry ∈ ([] : List PayoutEntry), entry.Promised next.db :=
    fun entry member => absurd member List.not_mem_nil
  cases served with
  | proceeded slot action projectId origin phase outcome here proceeds =>
      have mine := sound.routes slot
      rw [here] at mine
      refine ⟨outcome.entries, rfl, ?_⟩
      refine proceeds.promised ledger keys keysAfter mine ?_ ?_ ?_
      · rintro payout next rfl
        exact finishing_of_reachable reached here
      · rintro key request rfl
        have creating := creating_of_reachable reached slot
        rw [here] at creating
        exact creating
      · rintro key request rfl
        cases action with
        | pay action => exact absurd proceeds Proceeds.not_pays
        | _ =>
            simp only [Service.Replays, here] at replays
            exact replays
  | paid slot projectId origin done action outcome route here acted after =>
      refine ⟨route.entries, rfl, ?_⟩
      have acted := acted_of_act acted
      obtain ⟨phase, invoice, quote, task, settled, found, sends⟩ :=
        sound.sends slot projectId origin done here
      have taskSound := (sound_of_reachable (engine_reachable reached)).tasks slot
      rw [task] at acted taskSound
      obtain ⟨source, target, given, price⟩ :=
        priced_of_reachable reached quote (lookup_some found).1
      cases sent_of_afterSend acted after with
      | goesOn next goesOn => exact promised_askedFor
      | returned sent member idle => exact promised_askedFor
      | failed error member idle =>
          intro entry there
          rcases List.mem_cons.mp there with rfl | asked
          · cases origin with
            | reconcile id outcome => trivial
            | create key request =>
                simp only [Service.Replays, here, task] at replays
                exact absurd member (acted.goesOn taskSound sends price.within replays error)
          · exact promised_askedFor entry asked
  | called slot projectId origin done request here idle => exact ⟨[], rfl, silent⟩
  | cancelled slot projectId origin phase here => exact ⟨[], rfl, silent⟩
  | started slot action projectId origin free idle => exact ⟨[], rfl, silent⟩
  | _ => exact ⟨[], rfl, silent⟩

theorem promised_of_reachableBy {env : Env} {service : Service}
    (reached : (payouts env).ReachableBy (Service.Replays env) service) :
    ∀ entry ∈ service.log, entry.Promised service.db := by
  refine reached.invariant (fun service => ∀ entry ∈ service.log, entry.Promised service.db) ?_ ?_
  · rintro _ rfl
    exact fun entry member => absurd member List.not_mem_nil
  · intro service action next earlier promised replays step entry member
    have served := served_of_step step
    have keys := payoutKeys_of_reachable (storage_of_payouts earlier)
    have keysAfter := payoutKeys_of_reachable (storage_of_payouts (earlier.next step))
    obtain ⟨entries, log, answers⟩ := served.promised replays earlier keysAfter
    rw [log] at member
    rcases List.mem_append.mp member with new | old
    · exact answers entry new
    · exact (promised entry old).lasts served.payoutLater keys keysAfter

/-! ## Every run -/

/-- **The answer to a repeated request.** In every run whose steps answer as the keys
promise, at most one payout is stored under a key, and every request under the key
that was answered when the payout was there was answered with that payout, if it
asked for what the payout was made for, and with `idempotency_key_reused` if it did
not. -/
theorem payout_idempotent {env : Env} {service : Service}
    (reached : (payouts env).ReachableBy (Service.Replays env) service) (projectId key : String) :
    service.db.sandboxPayouts.countP
        (fun row => row.projectId = projectId ∧ row.idempotencyKey = key) ≤ 1 ∧
    ∀ request stored answer,
      .answered projectId (.create key request) (some stored) answer ∈ service.log →
      ∃ row, service.db.findPayoutByKey projectId key = some row ∧
        (request.Asks row → ∃ given, answer = .ok given ∧ given.payout.id = row.id) ∧
        (¬ request.Asks row →
          answer = .error StorageError.idempotencyMismatch.toApiError) := by
  refine ⟨?_, ?_⟩
  · have keys := payoutKeys_of_reachable (storage_of_payouts reached.reachable)
    have counted := keys.idempotency.countP_eq (projectId, key) (fun _ => True)
    simp only [Prod.mk.injEq, and_true] at counted
    rw [counted]
    split <;> decide
  · intro request stored answer member
    obtain ⟨row, found, same, differs⟩ := promised_of_reachableBy reached _ member
    exact ⟨row, found, same, differs⟩

/-- A request is sent again once it was answered. -/
theorem payout_idempotent_again : ∃ service : Service,
    (payouts settlementEnv).ReachableBy (Service.Replays settlementEnv) service ∧ ∃ row given,
    service.db.findPayoutByKey "prj_1" "key_1" = some row ∧
    .answered "prj_1" (.create "key_1" plainPayout) (some row) (.ok given) ∈ service.log ∧
    given.created = false ∧ given.payout.id = row.id := by
  have funds : (payouts settlementEnv).ReachableBy (Service.Replays settlementEnv) funded :=
    Machine.reachableBy_of_run (.start rfl)
      (show Machine.StepsMeet _ _ _ fundedActions from
        ⟨trivial, fun _ _ => ⟨trivial, fun _ _ => trivial⟩⟩) (run_fundedActions settlementEnv)
  have asked := funds.step (show Service.Replays settlementEnv _
    (.payout 0 (.create "prj_1" "key_1" plainPayout)) from trivial) rfl
  have looked := asked.step (show Service.Replays settlementEnv _ (.payout 0 .read)
    from fun _ => ⟨by decide, _, rfl⟩) rfl
  have missed := looked.step (show Service.Replays settlementEnv _ (.payout 0 .read)
    from nofun) rfl
  have reserved := missed.step (show Service.Replays settlementEnv _
    (.payout 0 (.reserve 1 regtestMade "pot_1")) from rfl) rfl
  have begun := reserved.step (show Service.Replays settlementEnv _ (.payout 0 (.write 2))
    from trivial) rfl
  have answered := begun.step (show Service.Replays settlementEnv _ (.payout 0 (.write 3))
    from trivial) rfl
  have again := answered.step (show Service.Replays settlementEnv _
    (.payout 0 (.create "prj_1" "key_1" plainPayout)) from trivial) rfl
  have found := again.step (show Service.Replays settlementEnv _ (.payout 0 .read)
    from fun _ => ⟨by decide, _, rfl⟩) rfl
  have replayed := found.step (show Service.Replays settlementEnv _ (.payout 0 .read) from by
    intro prior stored _ _
    cases stored
    rfl) rfl
  refine ⟨_, replayed, _, _, rfl, .head _, rfl, ?_⟩
  obtain ⟨row, stored, same, -⟩ :=
    (payout_idempotent replayed "prj_1" "key_1").2 plainPayout _ _ (.head _)
  cases stored
  obtain ⟨given, answer, named⟩ := same ⟨rfl, rfl, rfl⟩
  cases answer
  exact named

/-- The settlement invoice is not compared, and of two requests that race for the
quote the second is told that the quote is stale. -/
theorem reused_key :
    (∃ service : Service,
      (payouts settlementEnv).ReachableBy (fun _ action => action.ofSandbox = true) service ∧
      ∃ row given, service.db.findPayoutByKey "prj_1" "key_1" = some row ∧
        row.settlementBolt11 ≠ (regtestPayout .timeout).settlementInvoice ∧
        .answered "prj_1" (.create "key_1" (regtestPayout .timeout)) (some row) (.ok given) ∈
          service.log) ∧
    ∃ service : Service,
      (payouts settlementEnv).ReachableBy (fun _ action => action.ofSandbox = true) service ∧
      ∃ row, service.db.findPayoutByKey "prj_1" "key_1" = some row ∧ plainPayout.Asks row ∧
        .answered "prj_1" (.create "key_1" plainPayout) (some row)
          (.error (StorageError.illegalTransition "stale_quote" "reserved").toApiError) ∈
            service.log := by
  have funds := reachable_ofSandbox (.start rfl) rfl (run_fundedActions settlementEnv)
  refine ⟨?_, ?_⟩
  · have created := reachable_ofSandbox funds rfl (show (payouts settlementEnv).run _
      [.payout 0 (.create "prj_1" "key_1" plainPayout), .payout 0 .read, .payout 0 .read,
        .payout 0 (.reserve 1 regtestMade "pot_1"), .payout 0 (.write 2),
        .payout 0 (.write 3), .payout 0 (.create "prj_1" "key_1" (regtestPayout .timeout)),
        .payout 0 .read] = some _ from rfl)
    have checked := created.step rfl
      (Service.step_check 0 regtestMade rfl (checkSettlement_regtest (by decide) rfl))
    have answered := reachable_ofSandbox checked rfl (show (payouts settlementEnv).run _
      [.payout 0 .read] = some _ from rfl)
    exact ⟨_, answered, _, _, rfl, nofun, .head _⟩
  · have raced := reachable_ofSandbox funds rfl (show (payouts settlementEnv).run _
      [.payout 0 (.create "prj_1" "key_1" plainPayout), .payout 0 .read, .payout 0 .read,
        .payout 1 (.create "prj_1" "key_1" plainPayout), .payout 1 .read, .payout 1 .read,
        .payout 0 (.reserve 1 regtestMade "pot_1"),
        .payout 1 (.reserve 2 regtestMade "pot_2")] = some _ from rfl)
    exact ⟨_, raced, _, rfl, ⟨rfl, rfl, rfl⟩, .head _⟩

end Safrod

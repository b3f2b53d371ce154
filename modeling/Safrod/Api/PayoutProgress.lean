import Safrod.Api.PayoutSteps
import Safrod.Engine.Progress
import Safrod.Storage.PayoutHistory

/-!
# What payout requests rely on

A payout request carries the payout it was given by an earlier call. `Route.Sound`
is what is still true of the stored payout when the next call is made, whatever
others did in between: it is of the project and was made by the request, a payout
that is only reserved or pending is in the hands of the request that created it,
and one that is being paid is succeeded. `Service.Sound` holds of every reachable
state (`payouts_sound`).
-/

set_option autoImplicit false

namespace Safrod

open Table Db

/-! ## Queries -/

theorem getQuote_eq_ok {db : Db} (unique : KeyUnique (fun row : QuoteRecord => row.id)
    db.sandboxQuotes) {projectId id : String} {quote : QuoteRecord} :
    db.getQuote projectId id = .ok quote ↔
      db.findQuote id = some quote ∧ quote.projectId = projectId := by
  rw [getQuote, fetchOne_eq_ok, unique.find?_and, Option.filter_eq_some_iff, decide_eq_true_eq]
  rfl

theorem getPayout_eq_ok {db : Db} (unique : KeyUnique (fun row : PayoutRecord => row.id)
    db.sandboxPayouts) {projectId id : String} {payout : PayoutRecord} :
    db.getPayout projectId id = .ok payout ↔
      db.findPayout id = some payout ∧ payout.projectId = projectId := by
  rw [getPayout, fetchOne_eq_ok, unique.find?_and, Option.filter_eq_some_iff, decide_eq_true_eq]
  rfl

/-! ## What a request relies on -/

def Origin.creates : Origin → Bool
  | .create _ _ => true
  | .reconcile _ _ => false

/-- The request made the payout, or names it. -/
def Origin.Made (row : PayoutRecord) : Origin → Prop
  | .create key request => row.idempotencyKey = key ∧ row.quoteId = request.quoteId ∧
      row.scenario = request.scenario ∧ row.settlementBolt11 = request.settlementInvoice
  | .reconcile id _ => row.id = id

namespace PayoutPhase

/-- The scenario a request has parsed and not yet stored. -/
def scenario : PayoutPhase → Option Scenario
  | .checkInvoice scenario _ _ => some scenario
  | .findPrior scenario => some scenario
  | .reserve scenario => some scenario
  | _ => none

/-- The payout a request works on. -/
def payout : PayoutPhase → Option PayoutRecord
  | .begin_ _ payout => some payout
  | .finish payout _ => some payout
  | .succeed payout => some payout
  | .price done _ => some done
  | .call done _ => some done
  | .pay done => some done
  | .attach done _ => some done
  | .fetch done => some done
  | _ => none

/-- The payout a request is about to move. -/
def working : PayoutPhase → Option String
  | .begin_ _ payout => some payout.id
  | .finish payout _ => some payout.id
  | .succeed payout => some payout.id
  | _ => none

/-- The statuses a payout can have while a request works on it. -/
def Allows (creates : Bool) (status : PayoutStatus) : PayoutPhase → Prop
  | .begin_ _ _ => creates = true ∧ status = .reserved
  | .finish _ _ | .succeed _ =>
      if creates then status = .pending else status ≠ .reserved ∧ status ≠ .pending
  | .price _ _ | .call _ _ | .pay _ | .attach _ _ | .fetch _ => status = .succeeded
  | _ => True

theorem working_of_advances {phase : PayoutPhase} {payout : PayoutRecord} {next : PayoutStatus}
    (target : phase.advances = some (payout, next)) :
    phase.working = some payout.id ∧ phase.payout = some payout := by
  cases phase <;> cases target <;> exact ⟨rfl, rfl⟩

theorem payout_of_working {phase : PayoutPhase} {id : String} (works : phase.working = some id) :
    ∃ payout, phase.payout = some payout ∧ payout.id = id := by
  cases phase <;> cases works <;> exact ⟨_, rfl, rfl⟩

/-- A move of a payout that nobody owns is one the request allows for. -/
theorem Allows.moves {phase : PayoutPhase} {creates : Bool} {status next : PayoutStatus}
    (allowed : phase.Allows creates status) (legal : status.canTransitionTo next = true)
    (shared : creates = false ∨ phase.working = none) : phase.Allows creates next := by
  cases phase with
  | begin_ scenario payout =>
      obtain ⟨mine, -⟩ := allowed
      rcases shared with other | none_
      · rw [mine] at other
        cases other
      · cases none_
  | finish payout target =>
      rcases shared with rfl | none_
      · exact PayoutStatus.settles_of_canTransitionTo legal allowed.1
      · cases none_
  | succeed payout =>
      rcases shared with rfl | none_
      · exact PayoutStatus.settles_of_canTransitionTo legal allowed.1
      · cases none_
  | price done invoice | call done request | pay done | attach done payment | fetch done =>
      cases allowed
      cases next <;> cases legal
  | _ => trivial

/-- What the phases after the move know of the payment. -/
def Settles (db : Db) (projectId : String) : PayoutPhase → Prop
  | .price done invoice => done.settlementBolt11 = some invoice
  | .call done request => ∃ invoice quote, done.settlementBolt11 = some invoice ∧
      db.findQuote done.quoteId = some quote ∧ request = settlementRequest done.id invoice quote
  | .attach done payment => ∃ hash, StoredFor db projectId (payoutKey done.id) hash payment.id
  | _ => True

end PayoutPhase

/-- What a step of a payout request may rely on. -/
structure RouteSound (db : Db) (projectId : String) (origin : Origin) (phase : PayoutPhase) :
    Prop where
  parsed : ∀ key request scenario, origin = .create key request →
    phase.scenario = some scenario → request.scenario = scenario.asStr
  stored : ∀ payout, phase.payout = some payout → ∃ row, db.findPayout payout.id = some row ∧
    row.projectId = projectId ∧ row.quoteId = payout.quoteId ∧
    row.settlementBolt11 = payout.settlementBolt11 ∧ origin.Made row ∧
    phase.Allows origin.creates row.status
  settles : phase.Settles db projectId

def Route.Sound (db : Db) : Route → Prop
  | .idle => True
  | .payout projectId origin phase => RouteSound db projectId origin phase

/-- The payout that is in the hands of the request that created it. -/
def Route.owns : Route → Option String
  | .idle => none
  | .payout _ origin phase => if origin.creates then phase.working else none

theorem settlementRequest_congr {quote later : QuoteRecord} (kept : QuoteKept quote later)
    (payoutId invoice : String) :
    settlementRequest payoutId invoice later = settlementRequest payoutId invoice quote := by
  simp only [settlementRequest, kept.btcAmountMsat]

theorem Origin.Made.lasts {origin : Origin} {row later : PayoutRecord} (made : origin.Made row)
    (kept : PayoutKept row later) (same : later.id = row.id) : origin.Made later := by
  cases origin with
  | create key request =>
      obtain ⟨ownKey, quote, scenario, invoice⟩ := made
      exact ⟨kept.idempotencyKey.trans ownKey, kept.quoteId.trans quote,
        kept.scenario.trans scenario, kept.settlementBolt11.trans invoice⟩
  | reconcile id outcome => exact same.trans made

/-- What a request relies on lasts, if nobody moves the payout it owns. -/
theorem RouteSound.lasts {db after : Db} {projectId : String} {origin : Origin}
    {phase : PayoutPhase} (sound : RouteSound db projectId origin phase)
    (later : PayoutLater db after) (payments : Later db after)
    (still : ∀ id row row', (Route.payout projectId origin phase).owns = some id →
      db.findPayout id = some row → after.findPayout id = some row' → row'.status = row.status) :
    RouteSound after projectId origin phase := by
  refine ⟨sound.parsed, ?_, ?_⟩
  · intro payout works
    obtain ⟨row, found, project, quote, invoice, made, allowed⟩ := sound.stored payout works
    obtain ⟨row', found', kept⟩ := later.payouts payout.id row found
    have same : row'.id = row.id := (lookup_some found').2.trans (lookup_some found).2.symm
    refine ⟨row', found', kept.projectId.trans project, kept.quoteId.trans quote,
      kept.settlementBolt11.trans invoice, made.lasts kept same, ?_⟩
    rcases kept.status with stays | legal
    · rw [stays]
      exact allowed
    · by_cases shared : origin.creates = false ∨ phase.working = none
      · exact allowed.moves legal shared
      · obtain ⟨creates, works'⟩ := not_or.mp shared
        obtain ⟨id, working⟩ := Option.ne_none_iff_exists'.mp works'
        have owned : (Route.payout projectId origin phase).owns = some id := by
          rw [Route.owns, if_pos (Bool.not_eq_false _ ▸ creates), working]
        have here : id = payout.id := by
          cases phase <;> cases works <;> cases working <;> rfl
        subst here
        rw [still payout.id row row' owned found found']
        exact allowed
  · have settles := sound.settles
    cases phase with
    | call done request =>
        obtain ⟨invoice, quote, settled, found, same⟩ := settles
        obtain ⟨quote', found', kept⟩ := later.quotes _ _ found
        refine ⟨invoice, quote', settled, found', ?_⟩
        rw [same, settlementRequest_congr kept]
    | attach done payment =>
        obtain ⟨hash, stored⟩ := settles
        exact ⟨hash, stored.lasts payments⟩
    | _ => exact settles

/-! ## What a step of a payout request leaves -/

/-- A payout request moves at most the payout it works on. -/
theorem Proceeds.moves {env : Env} {db : Db} {projectId : String} {origin : Origin}
    {phase : PayoutPhase} {action : PayoutAction} {outcome : RouteOutcome}
    (proceeds : Proceeds env db projectId origin phase action outcome) {id : String}
    {row row' : PayoutRecord} (found : db.findPayout id = some row)
    (found' : outcome.db.findPayout id = some row') :
    row'.status = row.status ∨ phase.working = some id := by
  have same : outcome.db = db → row'.status = row.status ∨ phase.working = some id := by
    intro unchanged
    rw [unchanged, found] at found'
    exact .inl (congrArg PayoutRecord.status (Option.some.inj found').symm)
  cases proceeds with
  | reserved key request scenario now clock payoutId payout after called =>
      obtain ⟨-, -, -, added⟩ := reserveQuote_ok called
      have looked : after.findPayout id = some row := by
        rw [findPayout, added, lookup_append_singleton]
        rw [findPayout] at found
        rw [found]
        rfl
      cases looked.symm.trans found'
      exact .inl rfl
  | advanced _ _ payout next now answer changed after target called =>
      rw [PayoutPhase.advanced_db] at found'
      obtain ⟨-, -, others, -⟩ := advancePayout_ok called
      by_cases here : id = payout.id
      · rw [here]
        exact .inr (PayoutPhase.working_of_advances target).1
      · rw [others id here, found] at found'
        exact .inl (congrArg PayoutRecord.status (Option.some.inj found').symm)
  | attached _ done payment now after called =>
      rw [attachPaymentToPayout_ok called, found, Option.map_some] at found'
      rw [← Option.some.inj found']
      left
      split <;> rfl
  | fetched _ done payout found => exact same (conclude_db db projectId origin payout)
  | _ => exact same rfl

/-- A request that works on no payout yet. -/
theorem RouteSound.of_none {db : Db} {projectId : String} {origin : Origin} {phase : PayoutPhase}
    (none_ : phase.payout = none)
    (parsed : ∀ key request scenario, origin = .create key request →
      phase.scenario = some scenario → request.scenario = scenario.asStr) :
    RouteSound db projectId origin phase := by
  refine ⟨parsed, ?_, ?_⟩
  · intro payout works
    rw [none_] at works
    cases works
  · cases phase <;> trivial

/-- A request that works on a stored payout, and not yet on its payment. -/
theorem RouteSound.of_row {db : Db} {projectId : String} {origin : Origin} {phase : PayoutPhase}
    {payout row : PayoutRecord} (works : phase.payout = some payout)
    (found : db.findPayout payout.id = some row) (project : row.projectId = projectId)
    (quote : row.quoteId = payout.quoteId)
    (invoice : row.settlementBolt11 = payout.settlementBolt11) (made : origin.Made row)
    (allowed : phase.Allows origin.creates row.status) (settles : phase.Settles db projectId) :
    RouteSound db projectId origin phase := by
  refine ⟨?_, ?_, settles⟩
  · intro key request scenario _ parsed
    cases phase <;> cases works <;> cases parsed
  · intro other works'
    cases works.symm.trans works'
    exact ⟨row, found, project, quote, invoice, made, allowed⟩

/-- The phases of the payment rely on the same payout. -/
theorem RouteSound.paying {db : Db} {projectId : String} {origin : Origin}
    {phase next : PayoutPhase} (sound : RouteSound db projectId origin phase)
    {done : PayoutRecord} (works : phase.payout = some done) (goesOn : next.payout = some done)
    (settles : next.Settles db projectId)
    (paid : ∀ status, phase.Allows origin.creates status → next.Allows origin.creates status) :
    RouteSound db projectId origin next := by
  obtain ⟨row, found, project, quote, invoice, made, allowed⟩ := sound.stored done works
  exact .of_row goesOn found project quote invoice made (paid _ allowed) settles

theorem conclude_sound (db : Db) (projectId : String) (origin : Origin) (payout : PayoutRecord) :
    (conclude db projectId origin payout).route.Sound db := by
  cases origin with
  | create key request => trivial
  | reconcile id outcome =>
      refine RouteSound.of_none rfl ?_
      intro key request scenario wrong
      cases wrong

theorem afterFound_ok {payout : PayoutRecord} {outcome : String} {phase : PayoutPhase}
    (decided : afterFound payout outcome = .ok phase) : payout.status = .unknown ∧
      (phase = .succeed payout ∨ phase = .finish payout .failed) := by
  unfold afterFound at decided
  obtain ⟨known, decided⟩ := Except.not_and_of_ite_error decided
  refine ⟨not_not.mp known, ?_⟩
  split at decided
  · cases decided
    exact .inl rfl
  · split at decided
    · cases decided
      exact .inr rfl
    · cases decided

/-- **What a step of a payout request leaves is sound.** -/
theorem Proceeds.sound {env : Env} {db : Db} {projectId : String} {origin : Origin}
    {phase : PayoutPhase} {action : PayoutAction} {outcome : RouteOutcome}
    (proceeds : Proceeds env db projectId origin phase action outcome)
    (quoteIds : KeyUnique (fun row : QuoteRecord => row.id) db.sandboxQuotes)
    (payoutIds : KeyUnique (fun row : PayoutRecord => row.id) db.sandboxPayouts)
    (sound : RouteSound db projectId origin phase) : outcome.route.Sound outcome.db := by
  cases proceeds with
  | refused phase action error reason => trivial
  | lookedUp key request scenario quote parsed found =>
      have same := Scenario.parse_eq_ok.mp parsed
      cases invoice : request.settlementInvoice with
      | none =>
          simp only [afterLookup, invoice]
          refine RouteSound.of_none rfl ?_
          rintro _ _ _ ⟨⟩ ⟨⟩
          exact same
      | some invoice =>
          simp only [afterLookup, invoice]
          refine RouteSound.of_none rfl ?_
          rintro _ _ _ ⟨⟩ ⟨⟩
          exact same
  | checked _ parsed quote invoice clock accepted =>
      refine RouteSound.of_none rfl ?_
      rintro key request _ same ⟨⟩
      exact sound.parsed key request parsed same rfl
  | replayed key request scenario prior payout found same => trivial
  | noPrior key request parsed missing =>
      refine RouteSound.of_none rfl ?_
      rintro _ _ _ ⟨⟩ ⟨⟩
      exact sound.parsed key request parsed rfl rfl
  | reserved key request scenario now clock payoutId payout after called =>
      obtain ⟨rfl, idFree, keyFree, added⟩ := reserveQuote_ok called
      have looked : after.findPayout payoutId = some (reservedRow now
          (request.reservation projectId key scenario payoutId)) := by
        rw [findPayout, added, lookup_append_singleton]
        rw [findPayout] at idFree
        rw [show lookup (fun row : PayoutRecord => row.id) payoutId db.sandboxPayouts = none from
          idFree]
        exact if_pos rfl
      refine RouteSound.of_row rfl looked rfl rfl rfl ⟨rfl, rfl, ?_, rfl⟩ ⟨rfl, rfl⟩ trivial
      exact (sound.parsed key request scenario rfl rfl).symm
  | advanced _ _ payout next now row changed after target called =>
      rw [PayoutPhase.advanced_db]
      obtain ⟨status, found, -, current, before, -, kept⟩ := advancePayout_ok called
      obtain ⟨stored, found', project, -, settlement, made, allowed⟩ :=
        sound.stored payout (PayoutPhase.working_of_advances target).2
      cases found'.symm.trans before
      have same : row.id = payout.id := (lookup_some found).2
      have here : after.findPayout row.id = some row := by rw [same, found]
      have made' : origin.Made row := made.lasts kept (same.trans (lookup_some before).2.symm)
      have project' : row.projectId = projectId := kept.projectId.trans project
      cases phase with
      | begin_ scenario payout =>
          cases target
          obtain ⟨creates, -⟩ := allowed
          have pending : if origin.creates then row.status = .pending else
              row.status ≠ .reserved ∧ row.status ≠ .pending := by
            rw [if_pos creates]
            exact status
          cases scenario with
          | success => exact RouteSound.of_row rfl here project' rfl rfl made' pending trivial
          | failure => exact RouteSound.of_row rfl here project' rfl rfl made' pending trivial
          | timeout => exact RouteSound.of_row rfl here project' rfl rfl made' pending trivial
      | succeed payout =>
          cases target
          simp only [PayoutPhase.advanced]
          split
          · exact conclude_sound after projectId origin row
          · rename_i invoice settled
            refine RouteSound.of_row rfl here project' rfl rfl made' status ?_
            exact (kept.settlementBolt11.trans settlement).trans settled
      | finish payout next => exact conclude_sound after projectId origin row
      | _ => cases target
  | priced _ done invoice quote found =>
      obtain ⟨row, found', project, quoteId, settlement, made, allowed⟩ := sound.stored done rfl
      refine RouteSound.of_row rfl found' project quoteId settlement made allowed ?_
      exact ⟨invoice, quote, sound.settles, ((getQuote_eq_ok quoteIds).mp found).1, rfl⟩
  | attached _ done payment now after called =>
      obtain ⟨row, found', project, quoteId, settlement, made, allowed⟩ := sound.stored done rfl
      have looked := attachPaymentToPayout_ok called done.id
      rw [found', Option.map_some, if_pos (lookup_some found').2] at looked
      refine RouteSound.of_row rfl looked project quoteId settlement ?_ allowed trivial
      cases origin <;> exact made
  | found id outcome payout phase fetched decided =>
      obtain ⟨found, project⟩ := (getPayout_eq_ok payoutIds).mp fetched
      obtain ⟨unknown, next⟩ := afterFound_ok decided
      have here : db.findPayout payout.id = some payout := by
        rw [(lookup_some found).2, found]
      have made : (Origin.reconcile id outcome).Made payout := (lookup_some found).2
      have settled : payout.status ≠ .reserved ∧ payout.status ≠ .pending := by
        rw [unknown]
        decide
      rcases next with rfl | rfl
      · exact RouteSound.of_row rfl here project rfl rfl made settled trivial
      · exact RouteSound.of_row rfl here project rfl rfl made settled trivial
  | fetched _ done payout found =>
      rw [conclude_db]
      exact conclude_sound db projectId origin payout
  | shown _ payout => trivial

theorem conclude_owns (db : Db) (projectId : String) (origin : Origin) (payout : PayoutRecord) :
    (conclude db projectId origin payout).route.owns = none := by
  cases origin <;> rfl

theorem afterLookup_owns (projectId : String) (origin : Origin) (request : PayoutRequest)
    (scenario : Scenario) (quote : QuoteRecord) :
    (Route.payout projectId origin (afterLookup request scenario quote)).owns = none := by
  unfold afterLookup
  split <;> exact ite_self _

/-- A request owns the payout it owned before, or a new one. -/
theorem Proceeds.owns {env : Env} {db : Db} {projectId : String} {origin : Origin}
    {phase : PayoutPhase} {action : PayoutAction} {outcome : RouteOutcome}
    (proceeds : Proceeds env db projectId origin phase action outcome) {id : String}
    (owned : outcome.route.owns = some id) :
    (Route.payout projectId origin phase).owns = some id ∨ db.findPayout id = none := by
  cases proceeds with
  | lookedUp key request scenario quote parsed found =>
      rw [afterLookup_owns] at owned
      cases owned
  | reserved key request scenario now clock payoutId payout after called =>
      obtain ⟨rfl, idFree, -, -⟩ := reserveQuote_ok called
      cases owned
      exact .inr idFree
  | advanced _ _ payout next now row changed after target called =>
      obtain ⟨-, found, -, -⟩ := advancePayout_ok called
      have same : row.id = payout.id := (lookup_some found).2
      left
      cases phase with
      | begin_ scenario payout =>
          cases target
          cases scenario <;> simpa only [PayoutPhase.advanced, afterPending, Route.owns,
            PayoutPhase.working, same] using owned
      | succeed payout =>
          simp only [PayoutPhase.advanced] at owned
          split at owned
          · rw [conclude_owns] at owned
            cases owned
          · simp only [Route.owns, PayoutPhase.working, ite_self, reduceCtorEq] at owned
      | finish payout next =>
          simp only [PayoutPhase.advanced, conclude_owns, reduceCtorEq] at owned
      | _ => cases target
  | priced _ done invoice quote found =>
      simp only [Route.owns, PayoutPhase.working, ite_self, reduceCtorEq] at owned
  | attached _ done payment now after called =>
      simp only [Route.owns, PayoutPhase.working, ite_self, reduceCtorEq] at owned
  | fetched _ done payout found =>
      rw [conclude_owns] at owned
      cases owned
  | checked _ scenario quote invoice clock accepted =>
      simp only [Route.owns, PayoutPhase.working, ite_self, reduceCtorEq] at owned
  | _ => cases owned

theorem conclude_pay {db : Db} {project projectId : String} {origin made : Origin}
    {payout done : PayoutRecord} :
    (conclude db project origin payout).route ≠ .payout projectId made (.pay done) := by
  cases origin <;> nofun

/-- A payout is paid from a call of `send_payment` on. -/
theorem Proceeds.not_pay {env : Env} {db : Db} {project projectId : String} {origin made : Origin}
    {phase : PayoutPhase} {action : PayoutAction} {outcome : RouteOutcome}
    (proceeds : Proceeds env db project origin phase action outcome) {done : PayoutRecord} :
    outcome.route ≠ .payout projectId made (.pay done) := by
  cases proceeds with
  | lookedUp key request scenario quote parsed found =>
      simp only [afterLookup]
      intro same
      split at same <;> cases same
  | advanced _ _ payout next now row changed after target called =>
      cases phase with
      | begin_ scenario payout =>
          intro same
          cases scenario <;> cases same
      | succeed payout =>
          simp only [PayoutPhase.advanced]
          split
          · exact conclude_pay
          · intro same
            cases same
      | finish payout next => exact conclude_pay
      | _ => cases target
  | fetched _ paid payout found => exact conclude_pay
  | found id outcome payout phase fetched decided =>
      intro same
      rcases (afterFound_ok decided).2 with rfl | rfl <;> cases same
  | _ =>
      intro same
      cases same

/-! ## Paying for a payout -/

/-- The request that `send_payment` runs for. -/
def SendPhase.SendsFor (env : Env) (request : SendRequest) : SendPhase → Prop
  | .parse asked => asked = request
  | .begin_ asked prepared => asked = request ∧ ∃ clock, prepare env clock request = .ok prepared
  | .persist prepared _ => ∃ clock, prepare env clock request = .ok prepared
  | .dispatch prepared _ _ => ∃ clock, prepare env clock request = .ok prepared
  | .refuse prepared _ _ => ∃ clock, prepare env clock request = .ok prepared

theorem Acted.sendsFor {env : Env} {db : Db} {projectId key : String} {phase later : SendPhase}
    {action : TaskAction} {outcome : Outcome}
    (acted : Acted env db (.send projectId key phase) action outcome)
    (goesOn : outcome.task = .send projectId key later) {request : SendRequest}
    (sends : phase.SendsFor env request) : later.SendsFor env request := by
  cases acted with
  | parsed _ _ asked clock prepared prepares =>
      cases goesOn
      cases sends
      exact ⟨rfl, _, prepares⟩
  | begun asked prepared now id payment after call =>
      cases goesOn
      exact sends.2
  | persisted prepared payment now pending after call =>
      cases goesOn
      exact sends
  | refused prepared payment pending error =>
      cases goesOn
      exact sends
  | _ => cases goesOn

/-- What a step of `send_payment` means for the payout request it runs for. -/
inductive Sent (projectId : String) (origin : Origin) (done : PayoutRecord) (outcome : Outcome) :
    RouteOutcome → Prop where
  | goesOn (phase : SendPhase) (task : outcome.task = .send projectId (payoutKey done.id) phase) :
      Sent projectId origin done outcome
        ⟨outcome.db, .payout projectId origin (.pay done), askedFor done.id outcome.entries⟩
  | returned (sent : SendResult)
      (member : Entry.returned projectId (payoutKey done.id) (.ok sent) ∈ outcome.entries)
      (idle : outcome.task = .idle) :
      Sent projectId origin done outcome
        ⟨outcome.db, .payout projectId origin (.attach done sent.payment),
          askedFor done.id outcome.entries⟩
  | failed (error : ApiError)
      (member : Entry.returned projectId (payoutKey done.id) (.error error) ∈ outcome.entries)
      (idle : outcome.task = .idle) :
      Sent projectId origin done outcome
        ⟨outcome.db, .idle,
          .answered projectId origin (origin.stored outcome.db projectId) (.error error) ::
            askedFor done.id outcome.entries⟩

theorem sendResult_storedBy (author : Author) (moved : Transitioned) :
    sendResult (storedBy author moved) = none := by
  unfold storedBy
  split <;> rfl

theorem sent_of_afterSend {env : Env} {db : Db} {projectId : String} {origin : Origin}
    {done : PayoutRecord} {phase : SendPhase} {action : TaskAction} {outcome : Outcome}
    {route : RouteOutcome}
    (acted : Acted env db (.send projectId (payoutKey done.id) phase) action outcome)
    (after : Service.afterSend projectId origin done outcome = some route) :
    Sent projectId origin done outcome route := by
  cases acted with
  | parsed _ clock prepared did | begun _ prepared now id payment after call
  | refused prepared payment pending error =>
      cases after
      exact .goesOn _ rfl
  | persisted prepared payment now pending after call =>
      simp only [Service.afterSend, sendResult_storedBy] at after
      cases after
      exact .goesOn _ rfl
  | parseFailed _ clock error failed | beginFailed _ prepared now id error after call
  | persistFailed prepared payment now error after call
  | failFailed prepared payment refusedWith now error after call =>
      cases after
      exact .failed _ List.mem_cons_self rfl
  | replayed _ prepared now id payment after call | accepted prepared payment pending nodeId
  | failed prepared payment refusedWith now failed after call =>
      cases after
      exact .returned _ List.mem_cons_self rfl
  | cancelled _ => cases after

/-! ## Soundness of runs -/

/-- A task of the engine pays the settlement invoice of a payout. -/
def PaysFor (env : Env) (db : Db) (projectId : String) (done : PayoutRecord) (task : Task) : Prop :=
  ∃ phase invoice quote, task = .send projectId (payoutKey done.id) phase ∧
    done.settlementBolt11 = some invoice ∧ db.findQuote done.quoteId = some quote ∧
    phase.SendsFor env (settlementRequest done.id invoice quote)

theorem PaysFor.lasts {env : Env} {db after : Db} {projectId : String} {done : PayoutRecord}
    {task : Task} (pays : PaysFor env db projectId done task) (later : PayoutLater db after) :
    PaysFor env after projectId done task := by
  obtain ⟨phase, invoice, quote, here, settled, found, sends⟩ := pays
  obtain ⟨quote', found', kept⟩ := later.quotes _ _ found
  refine ⟨phase, invoice, quote', here, settled, found', ?_⟩
  rw [settlementRequest_congr kept]
  exact sends

structure Service.Sound (env : Env) (service : Service) : Prop where
  routes : ∀ slot, (service.routes slot).Sound service.db
  owners : ∀ first second id, (service.routes first).owns = some id →
    (service.routes second).owns = some id → first = second
  /-- While a payout is paid, the engine runs `send_payment` for it in the same slot. -/
  sends : ∀ slot projectId origin done,
    service.routes slot = .payout projectId origin (.pay done) →
      PaysFor env service.db projectId done (service.world.tasks slot)

theorem Served.performed_db {env : Env} {service next : Service} {action : ServiceAction}
    (served : Served env service action next) :
    next.db = service.db ∨ ∃ call, next.db = service.db.perform call := by
  rcases served.world with same | ⟨action, step⟩
  · exact .inl (congrArg World.db same)
  · exact (stepped_of_step step).performed

theorem Served.payoutLater {env : Env} {service next : Service} {action : ServiceAction}
    (served : Served env service action next) : PayoutLater service.db next.db :=
  payoutLater_of_performed served.performed_db

theorem Served.later {env : Env} {service next : Service} {action : ServiceAction}
    (served : Served env service action next) : Later service.db next.db :=
  later_of_performed served.performed_db

/-- A quote or a credit leaves the payouts alone. -/
theorem perform_sandboxPayouts {call : Call} (own : call.Serves) (db : Db) :
    (db.perform call).sandboxPayouts = db.sandboxPayouts := by
  cases sandbox : call.isSandbox with
  | false => exact (perform_sameSandbox sandbox db).payouts
  | true =>
      rcases own sandbox with ⟨now, -, id, -, -, new, rfl, -⟩ | ⟨projectId, currency, minor, rfl⟩
      · cases ended : insertQuote now id new db with
        | mk answer after =>
            rw [perform, ended]
            cases insertQuote_inserted ended with
            | inserted positive idFree => rfl
            | refused error => rfl
      · cases ended : creditSandboxBalance projectId currency minor db with
        | mk answer after =>
            rw [perform, ended]
            rcases creditSandboxBalance_cases ended with ⟨-, rfl⟩ | ⟨-, written⟩
            · rfl
            · rw [upsertBalance_eq written]

/-- A request that goes on without a part in a step keeps what it relies on. -/
theorem Route.Sound.lasts {db after : Db} {route : Route} (sound : route.Sound db)
    (later : PayoutLater db after) (payments : Later db after)
    (still : ∀ id row row', route.owns = some id → db.findPayout id = some row →
      after.findPayout id = some row' → row'.status = row.status) : route.Sound after := by
  cases route with
  | idle => trivial
  | payout projectId origin phase => exact RouteSound.lasts sound later payments still

/-- While the table of payouts stays the same, so do the statuses. -/
theorem status_of_same {db after : Db} (same : after.sandboxPayouts = db.sandboxPayouts)
    {id : String} {row row' : PayoutRecord} (found : db.findPayout id = some row)
    (found' : after.findPayout id = some row') : row'.status = row.status := by
  rw [findPayout, same, ← findPayout, found] at found'
  rw [Option.some.inj found']

/-- A payout in the hands of its creator is reserved or pending. -/
theorem RouteSound.owned_status {db : Db} {projectId : String} {origin : Origin}
    {phase : PayoutPhase} (sound : RouteSound db projectId origin phase)
    (creates : origin.creates = true) {id : String} (works : phase.working = some id)
    {row : PayoutRecord} (found : db.findPayout id = some row) :
    row.status = .reserved ∨ row.status = .pending := by
  obtain ⟨payout, carried, rfl⟩ := PayoutPhase.payout_of_working works
  obtain ⟨row', found', -, -, -, -, allowed⟩ := sound.stored payout carried
  cases found'.symm.trans found
  cases phase with
  | begin_ scenario payout => exact .inl allowed.2
  | finish payout next =>
      rw [creates] at allowed
      exact .inr allowed
  | succeed payout =>
      rw [creates] at allowed
      exact .inr allowed
  | _ => cases works

/-- A payout in the hands of a reconciliation is neither. -/
theorem RouteSound.shared_status {db : Db} {projectId : String} {origin : Origin}
    {phase : PayoutPhase} (sound : RouteSound db projectId origin phase)
    (creates : origin.creates = false) {id : String} (works : phase.working = some id)
    {row : PayoutRecord} (found : db.findPayout id = some row) :
    row.status ≠ .reserved ∧ row.status ≠ .pending := by
  obtain ⟨payout, carried, rfl⟩ := PayoutPhase.payout_of_working works
  obtain ⟨row', found', -, -, -, -, allowed⟩ := sound.stored payout carried
  cases found'.symm.trans found
  cases phase with
  | begin_ scenario payout =>
      rw [creates] at allowed
      cases allowed.1
  | finish payout next =>
      rw [creates] at allowed
      exact allowed
  | succeed payout =>
      rw [creates] at allowed
      exact allowed
  | _ => cases works

/-- The owner of a payout is the only one to move it. -/
theorem Service.Sound.still {env : Env} {service : Service} (sound : service.Sound env)
    {slot other : ℕ} (different : other ≠ slot) {projectId : String} {origin : Origin}
    {phase : PayoutPhase} {action : PayoutAction} {outcome : RouteOutcome}
    (here : service.routes slot = .payout projectId origin phase)
    (proceeds : Proceeds env service.db projectId origin phase action outcome) {id : String}
    {row row' : PayoutRecord} (owned : (service.routes other).owns = some id)
    (found : service.db.findPayout id = some row)
    (found' : outcome.db.findPayout id = some row') : row'.status = row.status := by
  rcases proceeds.moves found found' with same | working
  · exact same
  · exfalso
    have mine := sound.routes slot
    rw [here] at mine
    cases creates : origin.creates with
    | true =>
        refine different (sound.owners other slot id owned ?_)
        rw [here, Route.owns, if_pos creates, working]
    | false =>
        have theirs := sound.routes other
        cases route : service.routes other with
        | idle =>
            rw [route] at owned
            cases owned
        | payout project created owner =>
            rw [route] at owned theirs
            simp only [Route.owns] at owned
            split at owned
            · rename_i made
              rcases RouteSound.owned_status theirs made owned found with status | status
              · exact (RouteSound.shared_status mine creates working found).1 status
              · exact (RouteSound.shared_status mine creates working found).2 status
            · cases owned

theorem Service.put_routes (service : Service) (slot : ℕ) (outcome : RouteOutcome) (other : ℕ) :
    (service.put slot outcome).routes other =
      if other = slot then outcome.route else service.routes other :=
  Function.update_apply service.routes slot outcome.route other

theorem Service.putSend_routes (service : Service) (slot : ℕ) (outcome : Outcome)
    (route : RouteOutcome) (other : ℕ) :
    (service.putSend slot outcome route).routes other =
      if other = slot then route.route else service.routes other :=
  Function.update_apply service.routes slot route.route other

/-- One owner after a step of one request, which owns what it owned or something new. -/
theorem owners_update {routes : ℕ → Route} {slot : ℕ} {route : Route}
    (owners : ∀ first second id, (routes first).owns = some id →
      (routes second).owns = some id → first = second)
    (mine : ∀ id, route.owns = some id → (routes slot).owns = some id ∨
      ∀ other, (routes other).owns ≠ some id) (first second : ℕ) (id : String)
    (firstOwns : (Function.update routes slot route first).owns = some id)
    (secondOwns : (Function.update routes slot route second).owns = some id) : first = second := by
  by_cases firstHere : first = slot
  · by_cases secondHere : second = slot
    · rw [firstHere, secondHere]
    · rw [firstHere, Function.update_self] at firstOwns
      rw [Function.update_of_ne secondHere] at secondOwns
      rcases mine id firstOwns with before | fresh
      · rw [firstHere]
        exact owners slot second id before secondOwns
      · exact absurd secondOwns (fresh second)
  · rw [Function.update_of_ne firstHere] at firstOwns
    by_cases secondHere : second = slot
    · rw [secondHere, Function.update_self] at secondOwns
      rcases mine id secondOwns with before | fresh
      · rw [secondHere]
        exact owners first slot id firstOwns before
      · exact absurd firstOwns (fresh first)
    · rw [Function.update_of_ne secondHere] at secondOwns
      exact owners first second id firstOwns secondOwns

/-- What a request owns is stored. -/
theorem Route.Sound.owned_stored {db : Db} {route : Route} (sound : route.Sound db) {id : String}
    (owned : route.owns = some id) : ∃ row, db.findPayout id = some row := by
  cases route with
  | idle => cases owned
  | payout projectId origin phase =>
      simp only [Route.owns] at owned
      split at owned
      · obtain ⟨payout, carried, rfl⟩ := PayoutPhase.payout_of_working owned
        obtain ⟨row, found, -⟩ := RouteSound.stored sound payout carried
        exact ⟨row, found⟩
      · cases owned

theorem Service.Sound.next {env : Env} {service next : Service} {action : ServiceAction}
    (sound : service.Sound env) (served : Served env service action next)
    (quoteIds : KeyUnique (fun row : QuoteRecord => row.id) service.db.sandboxQuotes)
    (payoutIds : KeyUnique (fun row : PayoutRecord => row.id) service.db.sandboxPayouts)
    (world : next.world.Sound env) : next.Sound env := by
  have later := served.payoutLater
  have payments := served.later
  cases served with
  | engine slot action outcome free acted =>
      have same := (acted_of_act acted).sameSandbox
      refine ⟨?_, sound.owners, ?_⟩
      · intro other
        exact (sound.routes other).lasts later payments fun id row row' _ found found' =>
          status_of_same same.payouts found found'
      · intro other projectId origin done here
        have apart : other ≠ slot := by
          rintro rfl
          rw [free] at here
          cases here
        have task := (World.put_tasks service.world slot outcome other).trans (if_neg apart)
        rw [task]
        exact (sound.sends other projectId origin done here).lasts later
  | started slot action projectId origin free idle =>
      refine ⟨?_, ?_, ?_⟩
      · intro other
        rw [Service.put_routes]
        split
        · cases origin with
          | create key request =>
              refine RouteSound.of_none rfl ?_
              rintro _ _ _ _ ⟨⟩
          | reconcile id outcome =>
              refine RouteSound.of_none rfl ?_
              rintro _ _ _ _ ⟨⟩
        · exact sound.routes other
      · refine owners_update sound.owners fun id => ?_
        cases origin <;> nofun
      · intro other project made done here
        rw [Service.put_routes] at here
        split at here
        · cases origin <;> cases here
        · exact sound.sends other project made done here
  | proceeded slot action projectId origin phase outcome here proceeds =>
      have mine := sound.routes slot
      rw [here] at mine
      refine ⟨?_, ?_, ?_⟩
      · intro other
        rw [Service.put_routes]
        split
        · exact proceeds.sound quoteIds payoutIds mine
        · rename_i different
          exact (sound.routes other).lasts later payments fun id row row' owned found found' =>
            sound.still different here proceeds owned found found'
      · refine owners_update sound.owners ?_
        intro id owned
        rcases proceeds.owns owned with before | missing
        · rw [here]
          exact .inl before
        · right
          intro other also
          obtain ⟨row, found⟩ := (sound.routes other).owned_stored also
          rw [missing] at found
          cases found
      · intro other project made done there
        rw [Service.put_routes] at there
        split at there
        · exact absurd there proceeds.not_pay
        · exact (sound.sends other project made done there).lasts later
  | called slot projectId origin done request here idle =>
      have mine := sound.routes slot
      rw [here] at mine
      refine ⟨?_, ?_, ?_⟩
      · intro other
        rw [Service.putSend_routes]
        split
        · exact RouteSound.paying mine rfl rfl trivial fun _ allowed => allowed
        · exact sound.routes other
      · refine owners_update sound.owners fun id => ?_
        simp only [Route.owns, PayoutPhase.working, ite_self, reduceCtorEq, false_implies]
      · intro other project made paid there
        rw [Service.putSend_routes] at there
        have task := World.put_tasks service.world slot
          ⟨service.db, .send projectId (payoutKey done.id) (.parse request), []⟩ other
        split at there
        · rename_i same
          cases there
          obtain ⟨invoice, quote, settled, found, asked⟩ := RouteSound.settles mine
          exact ⟨.parse request, invoice, quote, task.trans (if_pos same), settled, found, asked⟩
        · rename_i apart
          exact task.trans (if_neg apart) ▸ sound.sends other project made paid there
  | paid slot projectId origin done action outcome route here acted after =>
      have acted := acted_of_act acted
      have same := acted.sameSandbox
      have mine := sound.routes slot
      rw [here] at mine
      obtain ⟨phase, invoice, quote, task, settled, found, sends⟩ :=
        sound.sends slot projectId origin done here
      rw [task] at acted
      have sent := sent_of_afterSend acted after
      have stays : RouteSound outcome.db projectId origin (.pay done) :=
        RouteSound.lasts mine later payments fun id row row' _ before there =>
          status_of_same same.payouts before there
      refine ⟨?_, ?_, ?_⟩
      · intro other
        rw [Service.putSend_routes]
        split
        · cases sent with
          | goesOn phase goesOn => exact stays
          | returned sent member idle =>
              obtain ⟨hash, stored⟩ := world.entries _ (List.mem_append_left _ member)
              exact stays.paying rfl rfl ⟨hash, stored⟩ fun _ allowed => allowed
          | failed error member idle => trivial
        · exact (sound.routes other).lasts later payments fun id row row' _ before there =>
            status_of_same same.payouts before there
      · refine owners_update sound.owners fun id => ?_
        cases sent <;> simp only [Route.owns, PayoutPhase.working, ite_self, reduceCtorEq,
          false_implies]
      · intro other project made paid there
        rw [Service.putSend_routes] at there
        have tasks := World.put_tasks service.world slot outcome other
        split at there
        · rename_i here'
          cases sent with
          | goesOn next goesOn =>
              cases there
              have stillPays : PaysFor env service.db projectId done outcome.task :=
                ⟨next, invoice, quote, goesOn, settled, found, acted.sendsFor goesOn sends⟩
              exact (tasks.trans (if_pos here')) ▸ stillPays.lasts later
          | returned sent member idle => cases there
          | failed error member idle => cases there
        · rename_i apart
          exact tasks.trans (if_neg apart) ▸
            (sound.sends other project made paid there).lasts later
  | cancelled slot projectId origin phase here =>
      refine ⟨?_, ?_, ?_⟩
      · intro other
        rw [Service.putSend_routes]
        split
        · trivial
        · exact sound.routes other
      · exact owners_update sound.owners fun id => nofun
      · intro other project made done there
        rw [Service.putSend_routes] at there
        split at there
        · cases there
        · rename_i apart
          have task := (World.put_tasks service.world slot ⟨service.db, .idle, []⟩ other).trans
            (if_neg apart)
          exact task ▸ sound.sends other project made done there
  | performed action call engine own =>
      have same := perform_sandboxPayouts own service.db
      refine ⟨?_, sound.owners, ?_⟩
      · intro other
        exact (sound.routes other).lasts later payments fun id row row' _ found found' =>
          status_of_same same found found'
      · intro other projectId origin done here
        exact (sound.sends other projectId origin done here).lasts later
  | refused action => exact sound
  | crashed => exact ⟨fun _ => trivial, fun _ _ _ => nofun, fun _ _ _ _ => nofun⟩

theorem storage_of_payouts {env : Env} {service : Service}
    (reached : (payouts env).Reachable service) : storage.Reachable service.db :=
  storage_reachable (engine_reachable reached)

theorem payoutIds_of_reachable {env : Env} {service : Service}
    (reached : (payouts env).Reachable service) :
    KeyUnique (fun row : PayoutRecord => row.id) service.db.sandboxPayouts :=
  (payoutKeys_of_reachable (storage_of_payouts reached)).ids

theorem quoteIds_of_reachable {env : Env} {service : Service}
    (reached : (payouts env).Reachable service) :
    KeyUnique (fun row : QuoteRecord => row.id) service.db.sandboxQuotes := by
  obtain ⟨credits, ledger⟩ := ledger_of_reachable (storage_of_payouts reached)
  exact ledger.quoteIds

/-- **In every run the payout requests are sound.** -/
theorem payouts_sound {env : Env} {service : Service} (reached : (payouts env).Reachable service) :
    service.Sound env := by
  refine reached.invariant (Service.Sound env) ?_ ?_
  · rintro _ rfl
    exact ⟨fun _ => trivial, fun _ _ _ => nofun, fun _ _ _ _ => nofun⟩
  · intro service action next earlier sound step
    exact sound.next (served_of_step step) (quoteIds_of_reachable earlier)
      (payoutIds_of_reachable earlier) (sound_of_reachable (engine_reachable (earlier.next step)))

/-- A payout that is not to succeed is to fail or to become unknown. -/
theorem Proceeds.finishing {env : Env} {db : Db} {projectId : String} {origin : Origin}
    {phase : PayoutPhase} {action : PayoutAction} {outcome : RouteOutcome}
    (proceeds : Proceeds env db projectId origin phase action outcome) {project : String}
    {made : Origin} {payout : PayoutRecord} {next : PayoutStatus}
    (goesOn : outcome.route = .payout project made (.finish payout next)) :
    next = .failed ∨ next = .unknown := by
  have concluded : ∀ row, (conclude db projectId origin row).route ≠
      .payout project made (.finish payout next) := by
    intro row
    cases origin <;> nofun
  cases proceeds with
  | lookedUp key request scenario quote parsed found =>
      simp only [afterLookup] at goesOn
      split at goesOn <;> cases goesOn
  | advanced _ _ payout next now row changed after target called =>
      have concluded : ∀ row, (conclude after projectId origin row).route ≠
          .payout project made (.finish payout next) := by
        intro row
        cases origin <;> nofun
      cases phase with
      | begin_ scenario payout =>
          cases scenario <;> cases goesOn
          · exact .inl rfl
          · exact .inr rfl
      | succeed payout =>
          simp only [PayoutPhase.advanced] at goesOn
          split at goesOn
          · cases origin <;> cases goesOn
          · cases goesOn
      | finish payout next => cases origin <;> cases goesOn
      | _ => cases target
  | fetched _ done payout found => exact absurd goesOn (concluded _)
  | found id outcome payout phase fetched decided =>
      rcases (afterFound_ok decided).2 with rfl | rfl
      · cases goesOn
      · cases goesOn
        exact .inl rfl
  | _ => cases goesOn

theorem finishing_of_reachable {env : Env} {service : Service}
    (reached : (payouts env).Reachable service) {slot : ℕ} {projectId : String} {origin : Origin}
    {payout : PayoutRecord} {next : PayoutStatus}
    (here : service.routes slot = .payout projectId origin (.finish payout next)) :
    next = .failed ∨ next = .unknown := by
  refine reached.invariant (fun service => ∀ slot projectId origin payout next,
    service.routes slot = .payout projectId origin (.finish payout next) →
      next = .failed ∨ next = .unknown) ?_ ?_ slot projectId origin payout next here
  · rintro _ rfl
    exact fun _ _ _ _ _ => nofun
  · intro service action after _ finishing step slot projectId origin payout next here
    cases served_of_step step with
    | engine slot' action outcome free acted =>
        exact finishing slot projectId origin payout next here
    | started slot' action project made free idle =>
        rw [Service.put_routes] at here
        split at here
        · cases made <;> cases here
        · exact finishing slot projectId origin payout next here
    | proceeded slot' action project made phase outcome there proceeds =>
        rw [Service.put_routes] at here
        split at here
        · exact proceeds.finishing here
        · exact finishing slot projectId origin payout next here
    | called slot' project made done request there idle =>
        rw [Service.putSend_routes] at here
        split at here
        · cases here
        · exact finishing slot projectId origin payout next here
    | paid slot' project made done action outcome route there acted sent =>
        rw [Service.putSend_routes] at here
        split at here
        · unfold Service.afterSend at sent
          split at sent
          · cases sent
            cases here
          · cases sent
            cases here
          · split at sent
            · cases sent
              cases here
            · cases sent
        · exact finishing slot projectId origin payout next here
    | cancelled slot' project made phase there =>
        rw [Service.putSend_routes] at here
        split at here
        · cases here
        · exact finishing slot projectId origin payout next here
    | performed action call engine own => exact finishing slot projectId origin payout next here
    | refused action => exact finishing slot projectId origin payout next here
    | crashed => cases here

end Safrod

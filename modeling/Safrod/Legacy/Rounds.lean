import Safrod.Legacy.Peers
import Safrod.Legacy.Runs

/-!
# Whole handlers of two nodes

A route of the source is called and its handler runs to its end, no other handler meanwhile:
a post is answered by a handler of the destination, which runs to its end as well. Such rounds
are runs of the two nodes (`TwoNodes.reachable_round`).

* `settlements_agree`: what the source has settled is what the rail says.
-/

set_option autoImplicit false

namespace Safrod.Legacy

open Machine Program Api

/-! ## Answers over the wire -/

namespace Api

def PeerReply.invoiceResponse : PeerReply → Option (ℕ × InvoiceResponse)
  | .invoice response => some (200, response)
  | _ => none

def PeerReply.payoutResponse : PeerReply → Option (ℕ × PeerPayoutResponse)
  | .payout status response => some (status, response)
  | _ => none

/-- What the client makes of the end of a handler. One that panicked closes the connection. -/
def sent {Body : Type} (read : PeerReply → Option (ℕ × Body)) :
    Except ApiError PeerReply → Option (HttpResponse Body)
  | .ok reply => (read reply).map fun answer => ⟨answer.1, some answer.2⟩
  | .error (.response status _) => some ⟨status, none⟩
  | .error .panicked => none

end Api

/-! ## Rounds -/

/-- A route of the source is called. The clock is that of the destination. -/
structure Round where
  route : Route
  now : Option ℕ
  adapter : ScriptedAdapter
  lightning : ScriptedLightning

/-- The source has the backends of the round. -/
def Round.within (round : Round) (state : Peers) : Peers :=
  { state with
    source := { state.source with adapter := round.adapter, lightning := round.lightning } }

namespace TwoNodes

variable {secp : Secp} (nodes : TwoNodes secp)

/-- A handler of the destination, from its first call to its end. -/
def receive (route : PeerRoute) (state : Peers) : Except ApiError PeerReply × Peers :=
  let ended := Program.exec World.respond (nodes.destination.servePeer route).run state.destination
  (ended.1, { state with
    destination := ended.2
    issued := state.issued ++ signed ended.1 })

/-- The answer to a call of the source, where the destination handles a post at once. -/
def exchange (now : Option ℕ) : (call : ApiCall) → Peers → ApiAnswer call × Peers
  | .node call, state =>
      let answered := World.respond call state.source
      (answered.1, { state with source := answered.2 })
  | .peerPrepare request, state =>
      let ended := nodes.receive (.prepareDestination now request) state
      (sent PeerReply.invoiceResponse ended.1, ended.2)
  | .peerPayout id, state =>
      let ended := nodes.receive (.peerPayout now id) state
      (sent PeerReply.payoutResponse ended.1, ended.2)
  | .peerReconcile id, state =>
      let ended := nodes.receive (.peerReconcilePayout now id) state
      (sent PeerReply.payoutResponse ended.1, ended.2)

/-- A handler of the source, from its first call to its end. -/
def round (round : Round) (state : Peers) : Peers :=
  (Program.exec (nodes.exchange round.now) (nodes.source.serve round.route).run
    (round.within state)).2

end TwoNodes

/-! ## Rounds are runs -/

section Runs

variable {secp : Secp} {nodes : TwoNodes secp} {state : Peers}

/-- A running handler of the destination can end before anything else happens. -/
theorem reachable_peerHandler (slot : ℕ) (program : RunningPeer)
    (reached : nodes.running.ReachableBy nodes.Unforged state)
    (running : state.peerHandlers slot = some program) :
    nodes.running.ReachableBy nodes.Unforged { state with
      destination := (Program.exec World.respond program state.destination).2
      issued := state.issued ++ signed (Program.exec World.respond program state.destination).1
      peerHandlers := Function.update state.peerHandlers slot none } := by
  induction program generalizing state with
  | done result =>
      have step : nodes.running.step state (.advancePeer slot) =
          some { state with
            issued := state.issued ++ signed result
            peerHandlers := Function.update state.peerHandlers slot none } := by
        simp only [TwoNodes.running, running]
      refine .step reached ?_ step
      exact trivial
  | ask call next ih =>
      have step : nodes.running.step state (.advancePeer slot) =
          some { state with
            destination := (World.respond call state.destination).2
            peerHandlers := Function.update state.peerHandlers slot
              (some (next (World.respond call state.destination).1)) } := by
        simp only [TwoNodes.running, running]
      have moved : nodes.running.ReachableBy nodes.Unforged _ := .step reached (by trivial) step
      have ended := ih _ moved (Function.update_self _ _ _)
      simp only [Function.update_idem] at ended
      exact ended

theorem reachable_receive (reached : nodes.running.ReachableBy nodes.Unforged state)
    {slot : ℕ} (free : state.peerHandlers slot = none) (route : PeerRoute) :
    nodes.running.ReachableBy nodes.Unforged (nodes.receive route state).2 := by
  have step : nodes.running.step state (.deliver slot route) = some { state with
      peerHandlers := Function.update state.peerHandlers slot
        (some (nodes.destination.servePeer route).run) } := by
    simp only [TwoNodes.running, free]
  have delivered : nodes.running.ReachableBy nodes.Unforged _ := .step reached (by trivial) step
  have ended := reachable_peerHandler slot _ delivered (Function.update_self _ _ _)
  have restored : Function.update state.peerHandlers slot none = state.peerHandlers :=
    Function.update_eq_self_iff.mpr free.symm
  simp only [Function.update_idem, restored] at ended
  exact ended

/-- The answers of the surroundings, where the peer says what is given. -/
def saying (invoice : Option (HttpResponse InvoiceResponse))
    (payout : Option (HttpResponse PeerPayoutResponse))
    (world : World ScriptedAdapter ScriptedLightning) : (call : ApiCall) → ApiAnswer call
  | .node call => (World.respond call world).1
  | .peerPrepare _ => invoice
  | .peerPayout _ => payout
  | .peerReconcile _ => payout

/-- What a handler of the destination answers is signed. -/
theorem sent_signed {ended : Except ApiError PeerReply} {attestation : PayoutAttestation}
    (said : attestationIn (sent PeerReply.payoutResponse ended) = some attestation) :
    attestation ∈ signed ended := by
  cases ended with
  | error error => cases error <;> cases said
  | ok reply =>
      cases reply with
      | payout status body => exact Option.mem_toList.mpr said
      | _ => cases said

/-- A handler that runs in a round leaves the others where they are. -/
theorem exec_exchange_handlers (nodes : TwoNodes secp) (now : Option ℕ) (program : Running)
    (state : Peers) :
    (Program.exec (nodes.exchange now) program state).2.handlers = state.handlers ∧
      (Program.exec (nodes.exchange now) program state).2.peerHandlers = state.peerHandlers := by
  induction program generalizing state with
  | done result => exact ⟨rfl, rfl⟩
  | ask call next ih =>
      obtain ⟨handlers, peerHandlers⟩ :=
        ih (nodes.exchange now call state).1 (nodes.exchange now call state).2
      refine ⟨handlers.trans ?_, peerHandlers.trans ?_⟩
      · cases call <;> rfl
      · cases call <;> rfl

section Handlers

variable {held : ℕ → Option Running} {slot peerSlot : ℕ}

/-- A handler of the source makes a call, and hears no more than the peer has signed. -/
theorem reachable_advance {call : ApiCall} {next : ApiAnswer call → Running}
    (reached : nodes.running.ReachableBy nodes.Unforged
      { state with handlers := Function.update held slot (some (.ask call next)) })
    (invoice : Option (HttpResponse InvoiceResponse))
    (payout : Option (HttpResponse PeerPayoutResponse))
    (vouched : ∀ attestation, attestationIn payout = some attestation →
      attestation ∈ state.issued)
    {answered : ApiAnswer call × World ScriptedAdapter ScriptedLightning}
    (responded : respondApi (saying invoice payout state.source) call state.source = answered) :
    nodes.running.ReachableBy nodes.Unforged { state with
      source := answered.2
      handlers := Function.update held slot (some (next answered.1)) } := by
  have step : nodes.running.step
      { state with handlers := Function.update held slot (some (.ask call next)) }
      (.advance slot (saying invoice payout state.source)) = some { state with
        source := answered.2
        handlers := Function.update held slot (some (next answered.1)) } := by
    simp only [TwoNodes.running, Function.update_self, Function.update_idem, responded]
  refine .step reached ?_ step
  intro other attestation said _
  cases other with
  | node call => cases said
  | peerPrepare request => cases said
  | peerPayout id => exact vouched attestation said
  | peerReconcile id => exact vouched attestation said

/-- A handler of the source makes a call, and a post is answered at once. -/
theorem reachable_exchange (now : Option ℕ) {call : ApiCall} {next : ApiAnswer call → Running}
    (reached : nodes.running.ReachableBy nodes.Unforged
      { state with handlers := Function.update held slot (some (.ask call next)) })
    (free : state.peerHandlers peerSlot = none) :
    nodes.running.ReachableBy nodes.Unforged { (nodes.exchange now call state).2 with
      handlers := Function.update held slot
        (some (next (nodes.exchange now call state).1)) } := by
  have posted : ∀ route, nodes.running.ReachableBy nodes.Unforged
      { (nodes.receive route state).2 with
        handlers := Function.update held slot (some (.ask call next)) } :=
    fun route => reachable_receive reached free route
  have vouched : ∀ route attestation,
      attestationIn (sent PeerReply.payoutResponse (nodes.receive route state).1) =
        some attestation → attestation ∈ (nodes.receive route state).2.issued :=
    fun route attestation said => List.mem_append_right _ (sent_signed said)
  cases call with
  | node call => exact reachable_advance reached none none (by rintro _ ⟨⟩) rfl
  | peerPrepare request => exact reachable_advance (posted _) _ none (by rintro _ ⟨⟩) rfl
  | peerPayout id => exact reachable_advance (posted _) none _ (vouched _) rfl
  | peerReconcile id => exact reachable_advance (posted _) none _ (vouched _) rfl

/-- A running handler of the source can end before anything else happens. -/
theorem reachable_handler (now : Option ℕ) (program : Running)
    (reached : nodes.running.ReachableBy nodes.Unforged
      { state with handlers := Function.update held slot (some program) })
    (free : state.peerHandlers peerSlot = none) :
    nodes.running.ReachableBy nodes.Unforged
      { (Program.exec (nodes.exchange now) program state).2 with
        handlers := Function.update held slot none } := by
  induction program generalizing state with
  | done result =>
      have step : nodes.running.step
          { state with handlers := Function.update held slot (some (.done result)) }
          (.advance slot (saying none none state.source)) =
          some { state with handlers := Function.update held slot none } := by
        simp only [TwoNodes.running, Function.update_self, Function.update_idem]
      refine .step reached ?_ step
      intro other attestation said _
      cases other <;> cases said
  | ask call next ih =>
      refine ih _ (reachable_exchange now reached free) ?_
      cases call <;> exact free

end Handlers

/-- After a round the same handlers run as before. -/
theorem round_handlers (nodes : TwoNodes secp) (round : Round) (state : Peers) :
    (nodes.round round state).handlers = state.handlers ∧
      (nodes.round round state).peerHandlers = state.peerHandlers :=
  exec_exchange_handlers nodes round.now (nodes.source.serve round.route).run (round.within state)

theorem withHandlers_eq {handlers : ℕ → Option Running} (same : state.handlers = handlers) :
    { state with handlers := handlers } = state := by
  cases same
  rfl

/-- A round is a run of the two nodes, where a handler can be started on either side. -/
theorem TwoNodes.reachable_round (reached : nodes.running.ReachableBy nodes.Unforged state)
    {slot peerSlot : ℕ} (free : state.handlers slot = none)
    (peerFree : state.peerHandlers peerSlot = none) (round : Round) :
    nodes.running.ReachableBy nodes.Unforged (nodes.round round state) := by
  have surrounded : nodes.running.step state
      (.surround round.adapter round.lightning state.destination.lightning) =
        some (round.within state) := rfl
  have called : nodes.running.step (round.within state) (.call slot round.route) =
      some { round.within state with
        handlers := Function.update state.handlers slot
          (some (nodes.source.serve round.route).run) } := by
    simp only [TwoNodes.running, Round.within, free]
  have started : nodes.running.ReachableBy nodes.Unforged _ :=
    .step (.step reached (by exact trivial) surrounded) (by exact trivial) called
  have ended := reachable_handler round.now _ started peerFree
  obtain ⟨same, -⟩ := round_handlers nodes round state
  have restored : Function.update state.handlers slot none = state.handlers :=
    Function.update_eq_self_iff.mpr free.symm
  rw [restored] at ended
  exact cast (congrArg _ (withHandlers_eq same)) ended

end Runs

/-! ## Handlers that settle -/

section Settling

variable {Adapter Lightning : Type} [FiatAdapter Adapter] [LightningSettlement Lightning]
  {Value : Type}

theorem exec_operate (respond : ApiMessage → ApiError) (program : NodeProgram Value)
    (world : World Adapter Lightning) :
    exec World.respond (operate respond program).run world =
      ((run program world).1.mapError (failure respond), (run program world).2) :=
  exec_mapError _ program world

theorem exec_settlementState (id : SettlementId) (world : World Adapter Lightning) :
    exec World.respond (settlementState id).run world = (.ok (world.stored id), world) := rfl

theorem exec_expectState {id : SettlementId} {world : World Adapter Lightning}
    {state : SettlementState} (stored : world.stored id = some state) :
    exec World.respond (expectState id).run world = (.ok state, world) := by
  refine (exec_bind_ok (exec_settlementState id world) _).trans ?_
  rw [stored]
  rfl

end Settling

section Source

variable {secp : Secp} {node : Node secp} {world : World ScriptedAdapter ScriptedLightning}
  {record : SettlementRecord} {id : SettlementId} {attestation : PayoutAttestation}

/-- The record with evidence of its payout. -/
def SettlementRecord.attested (record : SettlementRecord) (attestation : PayoutAttestation) :
    SettlementRecord :=
  { record with
    state := attestation.status.state
    attestations := record.attestations ++ [attestation] }

theorem run_applyPayoutAttestation (authorized : node.authorize attestation = .ok ())
    (found : world.store.get attestation.settlementId = some record)
    (pending : record.state = .settlementConditionCreated ∨ record.state = .payoutUnknown) :
    run (node.applyPayoutAttestation attestation) world =
      (.ok (), world.putRecord (record.attested attestation)) := by
  simp only [Node.applyPayoutAttestation, run_bind, authorized, run_orFail_ok, after_ok,
    run_fetch_some world found]
  rcases pending with state | state
  · have requested : transition .settlementConditionCreated .requestPayout =
        .ok .payoutRequested := rfl
    simp only [state, requested, run_bind, run_orFail_ok, after_ok, transition_observePayout,
      run_put, SettlementRecord.attested]
  · simp only [state, run_bind, run_orFail_ok, after_ok, transition_reconcileUnknown, run_put,
      SettlementRecord.attested]

/-- A backend that releases and refunds what it is asked. -/
structure Settles (lightning : ScriptedLightning) (id : SettlementId) : Prop where
  release : ∃ preimage, lightning.release id = .ok preimage
  refund : lightning.refund id = .ok ()

theorem exec_conclude (settles : Settles world.lightning id)
    (found : world.store.get id = some record) {outcome : PayoutOutcome}
    (state : record.state = outcome.state) (unexpected : Option SettlementState → ApiError) :
    ∃ later, exec World.respond (conclude unexpected id).run world = (.ok (), later) ∧
      later.store = world.store.put { record with state := outcome.settled } := by
  have stored : world.stored id = some outcome.state := by
    rw [World.stored, found, Option.map_some, state]
  have read := exec_settlementState id world
  rw [stored] at read
  cases outcome with
  | confirmed =>
      obtain ⟨preimage, released⟩ := settles.release
      have legal : transition record.state .releaseSettlement = .ok .settlementReleased := by
        rw [state]
        rfl
      have answered : (World.respond (.release id) world).1 = .ok preimage := released
      have ran : run (releaseSettlement id) world = (.ok preimage,
          (World.respond (.release id) world).2.putRecord
            { record with state := .settlementReleased }) := by
        simp only [releaseSettlement, run_bind, run_fetch_some world found, after_ok, legal,
          run_orFail_ok, run_release, answered, run_put, run_pure]
      have operated := exec_operate internalError (releaseSettlement id) world
      rw [ran] at operated
      exact ⟨_, (exec_bind_ok read _).trans (exec_bind_ok operated _), rfl⟩
  | failed =>
      have legal : transition record.state .refund = .ok .refunded := by
        rw [state]
        rfl
      have answered : (World.respond (.refund id) world).1 = .ok () := settles.refund
      have ran : run (refundSettlement id) world = (.ok (),
          (World.respond (.refund id) world).2.putRecord { record with state := .refunded }) := by
        simp only [refundSettlement, run_bind, run_fetch_some world found, after_ok, legal,
          run_orFail_ok, run_refund, answered, run_put]
      have operated := exec_operate internalError (refundSettlement id) world
      rw [ran] at operated
      exact ⟨_, (exec_bind_ok read _).trans operated, rfl⟩

/-- An attestation that the source accepts settles a record that waits for one. -/
theorem exec_settleOn (settles : Settles world.lightning id)
    (found : world.store.get id = some record)
    (pending : record.state = .settlementConditionCreated ∨ record.state = .payoutUnknown)
    (about : attestation.settlementId = id) (authorized : node.authorize attestation = .ok ())
    (unexpected : Option SettlementState → ApiError) (raw : String) (status : ℕ) :
    (exec World.respond
      (settleOn node unexpected raw id ⟨status, some ⟨some attestation⟩⟩).run world).2.stored id =
      some attestation.status.settled := by
  cases about
  have same := SettlementStore.get_id found
  have applied := run_applyPayoutAttestation authorized found pending
  have operated := exec_operate badRequest (node.applyPayoutAttestation attestation) world
  rw [applied] at operated
  have written : (world.putRecord (record.attested attestation)).store.get
      attestation.settlementId = some (record.attested attestation) := by
    rw [← same]
    exact SettlementStore.get_put_self _ _
  have backend : Settles (world.putRecord (record.attested attestation)).lightning
      attestation.settlementId := settles
  obtain ⟨later, concluded, store⟩ := exec_conclude backend written rfl unexpected
  have stored : later.stored attestation.settlementId = some attestation.status.settled := by
    rw [World.stored, store, ← same]
    exact congrArg _ (SettlementStore.get_put_self _ _)
  have ran : exec World.respond (settleOn node unexpected raw attestation.settlementId
      ⟨status, some ⟨some attestation⟩⟩).run world =
        (.ok ⟨raw, attestation.status.settled⟩, later) := by
    refine (exec_bind_ok operated _).trans ((exec_bind_ok concluded _).trans ?_)
    exact exec_bind_ok (exec_expectState stored) _
  rw [ran]
  exact stored

end Source

/-! ## Handlers that pay -/

section Destination

variable {world : World SimulatedFiatAdapter ScriptedLightning} {record : SettlementRecord}
  {id : SettlementId} {outcome : PayoutOutcome} {reservation : ReservationId}

/-- A payout that the rail answers with its outcome. -/
theorem run_requestPayout (found : world.store.get id = some record)
    (state : record.state = .settlementConditionCreated)
    (reserved : record.sourceReservation = some reservation)
    (answered : (world.adapter.initiatePayout reservation record.beneficiary
      record.payoutIdempotencyKey).1 = .ok outcome) :
    (run (requestPayout id) world).1 = .ok outcome := by
  have legal : transition record.state .requestPayout = .ok .payoutRequested := by
    rw [state]
    rfl
  have said : (World.respond (.initiatePayout reservation record.beneficiary
      record.payoutIdempotencyKey) world).1 = .ok outcome := answered
  simp only [requestPayout, run_bind, run_fetch_some world found, after_ok, legal, run_orFail_ok,
    reserved, run_initiatePayout, said, transition_observePayout, run_put, run_pure]

theorem run_reconcileUnknownPayout (found : world.store.get id = some record)
    (state : record.state = .payoutUnknown)
    (paid : world.adapter.payouts record.payoutIdempotencyKey = some outcome) :
    (run (reconcileUnknownPayout id) world).1 = .ok outcome := by
  have said : (World.respond (.queryPayout record.payoutIdempotencyKey) world).1 =
      .ok (some outcome) := congrArg Except.ok paid
  simp only [reconcileUnknownPayout, run_bind, run_fetch_some world found, after_ok, state,
    ne_eq, not_true_eq_false, if_false, run_queryPayout, said, run_orFail_ok,
    transition_reconcileUnknown, run_put, run_pure]

theorem exec_parseSettlementId {Call : Type} {Answer : Call → Type} {State : Type}
    {handle : (call : Call) → State → Answer call × State} {raw : String}
    (parsed : SettlementId.fromHex raw = some id) (state : State) :
    exec handle (parseSettlementId raw : ExceptT ApiError (Program Call Answer) _).run state =
      (.ok id, state) := by
  rw [parseSettlementId, parsed]
  rfl

/-- What is attested of an outcome. -/
def Node.attests {secp : Secp} (node : Node secp) (id : SettlementId) (outcome : PayoutOutcome)
    (seconds : ℕ) : PayoutAttestation :=
  node.signPayoutAttestation id outcome ("simulated-rail-" ++ id.toText) seconds

theorem exec_answerPayout {secp : Secp} (node : Node secp)
    {program : SettlementId → NodeProgram PayoutOutcome}
    (finds : (run (program id) world).1 = .ok outcome) (pending : NodeError) (seconds : ℕ)
    {raw : String} (parsed : SettlementId.fromHex raw = some id) :
    exec World.respond (answerPayout node pending program (some seconds) raw).run world =
      (.ok (200, ⟨some (node.attests id outcome seconds)⟩), (run (program id) world).2) := by
  have attempted : exec World.respond (attempt (program id)).run world =
      (.ok (.ok outcome), (run (program id) world).2) := by
    rw [← finds]
    exact exec_lift (program id).run world
  refine (exec_bind_ok (exec_parseSettlementId parsed world) _).trans ?_
  exact exec_bind_ok attempted _

end Destination

/-! ## A round settles -/

section Rounds

variable {secp : Secp} {nodes : TwoNodes secp} {state : Peers} {id : SettlementId}

/-- What a handler of the destination answers when it attests an outcome. -/
def attesting (attestation : PayoutAttestation) : HttpResponse PeerPayoutResponse :=
  ⟨200, some ⟨some attestation⟩⟩

/-- A handler that posts nothing runs on the source alone. -/
theorem exec_onNode {Value : Type} (now : Option ℕ) (handler : Handler Value) (state : Peers) :
    exec (nodes.exchange now) (onNode handler).run state =
      ((exec World.respond handler.run state.source).1,
        { state with source := (exec World.respond handler.run state.source).2 }) := by
  have answers : ∀ call (source : World ScriptedAdapter ScriptedLightning),
      (nodes.exchange now (.node call) { state with source := source }).1 =
        (World.respond call source).1 := fun _ _ => rfl
  have leaves : ∀ call (source : World ScriptedAdapter ScriptedLightning),
      (nodes.exchange now (.node call) { state with source := source }).2 =
        { state with source := (World.respond call source).2 } := fun _ _ => rfl
  exact exec_embed ApiCall.node (fun _ answer => answer) (fun source => { state with
    source := source }) answers leaves handler.run state.source

/-- A call that was answered. -/
theorem exec_post {now : Option ℕ} {call : ApiCall} {answer : ApiAnswer call} {posted : Peers}
    (answered : nodes.exchange now call state = (answer, posted)) :
    exec (nodes.exchange now) (post call).run state = (.ok answer, posted) := by
  refine (exec_lift (Program.call call) state).trans ?_
  rw [Program.call, exec_ask, answered]
  rfl

theorem exec_settle {now : Option ℕ} {raw : String} (parsed : SettlementId.fromHex raw = some id)
    {attestation : PayoutAttestation} {posted : Peers}
    (answered : nodes.exchange now (.peerPayout id.toText) state =
      (some (attesting attestation), posted)) :
    ∃ unexpected, (exec (nodes.exchange now) (settle nodes.source raw).run state).2.source =
      (exec World.respond (settleOn nodes.source unexpected raw id
        (attesting attestation)).run posted.source).2 := by
  have asked := exec_post answered
  have success : (attesting attestation).isSuccess = true := rfl
  have known : (attesting attestation).status ≠ 202 := show 200 ≠ 202 by decide
  rw [settle, exec_bind_ok (exec_parseSettlementId parsed state), exec_bind_ok asked]
  dsimp only
  rw [if_pos success, if_neg known, exec_onNode]
  exact ⟨_, rfl⟩

/-- A peer that attests an outcome is heard in a reconciliation as well. -/
theorem exec_reconcilePeerPayout {now : Option ℕ} {raw : String}
    (parsed : SettlementId.fromHex raw = some id)
    {attestation : PayoutAttestation} {posted : Peers}
    (answered : nodes.exchange now (.peerReconcile id.toText) state =
      (some (attesting attestation), posted)) :
    ∃ unexpected,
      (exec (nodes.exchange now) (reconcilePeerPayout nodes.source raw).run state).2.source =
        (exec World.respond (settleOn nodes.source unexpected raw id
          (attesting attestation)).run posted.source).2 := by
  have asked := exec_post answered
  have success : (attesting attestation).isSuccess = true := rfl
  have known : (attesting attestation).status ≠ 202 := show 200 ≠ 202 by decide
  rw [reconcilePeerPayout, exec_bind_ok (exec_parseSettlementId parsed state), exec_bind_ok asked]
  dsimp only
  rw [if_neg known, if_pos success, exec_onNode]
  exact ⟨_, rfl⟩

/-- The destination finds an outcome, and what the client makes of its answer attests it. -/
theorem receive_answerPayout {route : PeerRoute} {pending : NodeError}
    {program : SettlementId → NodeProgram PayoutOutcome} {outcome : PayoutOutcome} {seconds : ℕ}
    (serves : nodes.destination.servePeer route = (fun answer => .payout answer.1 answer.2) <$>
      answerPayout nodes.destination pending program (some seconds) id.toText)
    (finds : (run (program id) state.destination).1 = .ok outcome) :
    sent PeerReply.payoutResponse (nodes.receive route state).1 =
      some (attesting (nodes.destination.attests id outcome seconds)) := by
  have ran := exec_answerPayout nodes.destination finds pending seconds
    (SettlementId.fromHex_toText id)
  rw [TwoNodes.receive, serves]
  have mapped := exec_bind_ok ran fun answer => (pure (PeerReply.payout answer.1 answer.2) :
    Handler PeerReply)
  exact congrArg (fun ended : Except ApiError PeerReply × _ =>
    sent PeerReply.payoutResponse ended.1) mapped

/-- A call that settles a record that waits for its payout: the destination finds the outcome,
and the source accepts what it signs. -/
theorem round_settles {outcome : PayoutOutcome} {record : SettlementRecord} {round : Round}
    {seconds : ℕ} (clock : round.now = some seconds) (backend : Settles round.lightning id)
    (found : state.source.store.get id = some record)
    (pending : record.state = .settlementConditionCreated ∨ record.state = .payoutUnknown)
    (authorized : nodes.source.authorize (nodes.destination.attests id outcome seconds) = .ok ())
    (finds : round.route = .settle id.toText ∧
        (run (requestPayout id) state.destination).1 = .ok outcome ∨
      round.route = .reconcilePeerPayout id.toText ∧
        (run (reconcileUnknownPayout id) state.destination).1 = .ok outcome) :
    (nodes.round round state).source.stored id = some outcome.settled := by
  have settled : ∀ unexpected (posted : Peers), posted.source = (round.within state).source →
      (exec World.respond (settleOn nodes.source unexpected id.toText id
        (attesting (nodes.destination.attests id outcome seconds))).run posted.source).2.stored id =
        some outcome.settled := by
    intro unexpected posted same
    rw [same]
    have waits : (round.within state).source.store.get id = some record := found
    have surrounded : Settles (round.within state).source.lightning id := backend
    exact exec_settleOn surrounded waits pending rfl authorized unexpected id.toText 200
  have parsed := SettlementId.fromHex_toText id
  rcases finds with ⟨route, finds⟩ | ⟨route, finds⟩
  · have answered : nodes.exchange round.now (.peerPayout id.toText) (round.within state) =
        (some (attesting (nodes.destination.attests id outcome seconds)),
          (nodes.receive (.peerPayout (some seconds) id.toText) (round.within state)).2) := by
      rw [clock]
      exact Prod.ext (receive_answerPayout rfl finds) rfl
    obtain ⟨unexpected, ran⟩ := exec_settle parsed answered
    rw [TwoNodes.round, route]
    exact (congrArg (World.stored · id) ran).trans (settled unexpected _ rfl)
  · have answered : nodes.exchange round.now (.peerReconcile id.toText) (round.within state) =
        (some (attesting (nodes.destination.attests id outcome seconds)),
          (nodes.receive (.peerReconcilePayout (some seconds) id.toText)
            (round.within state)).2) := by
      rw [clock]
      exact Prod.ext (receive_answerPayout rfl finds) rfl
    obtain ⟨unexpected, ran⟩ := exec_reconcilePeerPayout parsed answered
    rw [TwoNodes.round, route]
    exact (congrArg (World.stored · id) ran).trans (settled unexpected _ rfl)

end Rounds

/-! ## What is settled -/

section Agreement

variable {secp : Secp} {nodes : TwoNodes secp} {state : Peers}

/-- **What the source has settled is what the rail of the destination says: a released
settlement was paid out, and the payout of a refunded one failed.** -/
theorem settlements_agree (reached : nodes.running.ReachableBy nodes.Unforged state)
    {id : SettlementId} {record : SettlementRecord}
    (found : state.source.store.get id = some record) :
    (record.state = .settlementReleased → state.rail.payouts id.toText = some .confirmed) ∧
      (record.state = .refunded → state.rail.payouts id.toText = some .failed) := by
  have backed := (peers_sound reached).source id record found
  have key : record.payoutIdempotencyKey = id.toText := by
    rw [backed.key, SettlementStore.get_id found]
  rw [← key]
  exact ⟨fun state => backed.ended .confirmed (.inr state),
    fun state => backed.ended .failed (.inr state)⟩

end Agreement

/-! ## Two nodes that settle -/

/-- The payer and its peer. -/
def pair : TwoNodes Secp.named where
  source := payer.toNode
  destination := ⟨peerSecret, none⟩

/-- Nothing is stored on either side. -/
def idlePair : Peers where
  source := idlePayer
  destination := { adapter := {}, lightning := .obliging }

theorem idlePair_reachable : pair.running.ReachableBy pair.Unforged idlePair :=
  .start ⟨rfl, rfl, fun _ => rfl, rfl, fun _ => rfl, fun _ => rfl⟩

/-- The payer calls a route when both backends do what they are asked. -/
def called (route : Route) : Round := ⟨route, some 0, .obliging, .obliging⟩

def preparing : Route :=
  .createSettlement (some 0) (some 0) firstId ⟨⟨.ngn, 5⟩, ⟨.kes, 1⟩, 7, "peer", "m-pesa", none⟩

/-- The first settlement is created, and its destination prepared. -/
def preparedPair : Peers := pair.round (called preparing) idlePair

/-- No handler runs. -/
theorem preparedPair_idle :
    preparedPair.handlers 0 = none ∧ preparedPair.peerHandlers 0 = none := by
  obtain ⟨handlers, peerHandlers⟩ := round_handlers pair (called preparing) idlePair
  rw [preparedPair, handlers, peerHandlers]
  exact ⟨rfl, rfl⟩

theorem preparedPair_reachable : pair.running.ReachableBy pair.Unforged preparedPair :=
  pair.reachable_round idlePair_reachable (show idlePair.handlers 0 = none from rfl)
    (show idlePair.peerHandlers 0 = none from rfl) _

/-- The first settlement is paid out, and released. -/
def settledPair : Peers := pair.round (called (.settle firstId.toText)) preparedPair

/-- The payer has released what its peer has paid out. -/
theorem settlements_agree_released :
    settledPair.source.stored firstId = some .settlementReleased ∧
      settledPair.rail.payouts firstId.toText = some .confirmed := by
  have reached : pair.running.ReachableBy pair.Unforged settledPair :=
    pair.reachable_round preparedPair_reachable preparedPair_idle.1 preparedPair_idle.2 _
  have released : settledPair.source.stored firstId = some .settlementReleased := rfl
  obtain ⟨record, found, state⟩ := Option.map_eq_some_iff.mp released
  exact ⟨released, (settlements_agree reached found).1 state⟩

end Safrod.Legacy

import Safrod.Legacy.Rounds

/-!
# Settlements that can still be recovered

A payout has its outcome on the rail, and the source waits for it. Whether further calls of
the provider can still settle the record is up to the record of the destination. While that
waits as well, the destination signs the outcome when it is asked. Once it has moved on, the
destination refuses every request for the outcome, and no answer that was lost comes again
(`recoverable_iff`).
-/

set_option autoImplicit false

namespace Safrod.Legacy

open Machine Program Api

/-! ## Further calls -/

namespace TwoNodes

variable {secp : Secp} (nodes : TwoNodes secp)

/-- One call after another. -/
def rounds (rounds : List Round) (state : Peers) : Peers :=
  rounds.foldl (fun state round => nodes.round round state) state

/-- Further calls of settle, reconcile-peer, release and refund settle the record. -/
def Recoverable (state : Peers) (id : SettlementId) (outcome : PayoutOutcome) : Prop :=
  ∃ rounds : List Round, (∀ round ∈ rounds, round.route.prepares = false) ∧
    (nodes.rounds rounds state).source.stored id = some outcome.settled

/-- The source takes the evidence of its peer. -/
def Paired : Prop :=
  ∀ expected, nodes.source.peerIdentity = some expected →
    expected = secp.publicKey nodes.destination.signingKey

end TwoNodes

/-- The record waits for the outcome of its payout. -/
def SettlementState.awaits (state : SettlementState) : Prop :=
  state = .settlementConditionCreated ∨ state = .payoutUnknown

instance (state : SettlementState) : Decidable state.awaits :=
  inferInstanceAs (Decidable (state = .settlementConditionCreated ∨ state = .payoutUnknown))

/-! ## While the destination waits -/

section Recovers

variable {secp : Secp} {nodes : TwoNodes secp} {state : Peers} {id : SettlementId}
  {outcome : PayoutOutcome}

/-- The source accepts what its peer attests. -/
theorem authorize_attests (lawful : secp.Lawful) (paired : nodes.Paired) (id : SettlementId)
    (outcome : PayoutOutcome) (seconds : ℕ) :
    nodes.source.authorize (nodes.destination.attests id outcome seconds) = .ok () := by
  have verified : Attestation.verify secp (nodes.destination.attests id outcome seconds) = .ok () :=
    Attestation.verify_sign lawful _ _ _ _ _
  have signer : secp.fromSlice (nodes.destination.attests id outcome seconds).signerPubkey =
      some (secp.publicKey nodes.destination.signingKey) := lawful.fromSlice_serialize _
  rw [Node.authorize, verified]
  cases configured : nodes.source.peerIdentity with
  | none => rfl
  | some expected =>
      cases paired expected configured
      simp only [signer, ne_eq, not_true_eq_false, if_false]
      rfl

/-- A payout that is recorded is answered as it was, while its reservation is live. -/
theorem initiatePayout_again {rail : SimulatedFiatAdapter} {reservation : ReservationId}
    {beneficiary key : String} (held : rail.Holds reservation)
    (paid : rail.payouts key = some outcome) :
    (rail.initiatePayout reservation beneficiary key).1 = .ok outcome := by
  rw [SimulatedFiatAdapter.initiatePayout, if_pos held, paid]

/-- A destination that waits finds the outcome. -/
theorem finds_outcome (sound : state.Sound nodes)
    (paid : state.rail.payouts id.toText = some outcome) {record : SettlementRecord}
    (found : state.destination.store.get id = some record) (awaits : record.state.awaits) :
    (run (requestPayout id) state.destination).1 = .ok outcome ∨
      (run (reconcileUnknownPayout id) state.destination).1 = .ok outcome := by
  have prepared := sound.destination id record found
  obtain ⟨reservation, reserved, held⟩ := prepared.reserved
  have known : state.rail.payouts record.payoutIdempotencyKey = some outcome := by
    rw [prepared.key, SettlementStore.get_id found, paid]
  rcases awaits with waits | waits
  · exact .inl (run_requestPayout found waits reserved (initiatePayout_again held known))
  · exact .inr (run_reconcileUnknownPayout found waits known)

theorem recoverable_of_awaits (lawful : secp.Lawful) (paired : nodes.Paired)
    (sound : state.Sound nodes) (paid : state.rail.payouts id.toText = some outcome)
    {record waiting : SettlementRecord} (found : state.source.store.get id = some record)
    (pending : record.state.awaits) (there : state.destination.store.get id = some waiting)
    (awaits : waiting.state.awaits) : nodes.Recoverable state id outcome := by
  have authorized := authorize_attests lawful paired id outcome 0
  have backend : Settles ScriptedLightning.obliging id := ⟨⟨_, rfl⟩, rfl⟩
  rcases finds_outcome sound paid there awaits with finds | finds
  · refine ⟨[called (.settle id.toText)], ?_, ?_⟩
    · intro round member
      cases List.mem_singleton.mp member
      rfl
    · exact round_settles rfl backend found pending authorized (.inl ⟨rfl, finds⟩)
  · refine ⟨[called (.reconcilePeerPayout id.toText)], ?_, ?_⟩
    · intro round member
      cases List.mem_singleton.mp member
      rfl
    · exact round_settles rfl backend found pending authorized (.inr ⟨rfl, finds⟩)

end Recovers

/-! ## Once the destination has moved on -/

namespace SimulatedFiatAdapter

/-- The rail as it would be, had nothing been paid under the key. -/
def forget (key : String) (rail : SimulatedFiatAdapter) : SimulatedFiatAdapter :=
  { rail with payouts := Function.update rail.payouts key none }

variable {rail later : SimulatedFiatAdapter} {key : String}

@[simp] theorem payouts_forget_self : (rail.forget key).payouts key = none :=
  Function.update_self _ _ _

theorem payouts_forget {other : String} (differs : other ≠ key) :
    (rail.forget key).payouts other = rail.payouts other := Function.update_of_ne differs _ _

theorem Grows.forget (grows : rail.Grows later) : (rail.forget key).Grows (later.forget key) where
  payouts other outcome paid := by
    by_cases same : other = key
    · rw [same, payouts_forget_self] at paid
      cases paid
    · rw [payouts_forget same] at paid ⊢
      exact grows.payouts other outcome paid
  holds reservation held := grows.holds reservation held

end SimulatedFiatAdapter

/-- A record of the settlement no longer waits. -/
def SettlementRecord.Closed (id : SettlementId) (record : SettlementRecord) : Prop :=
  record.id = id → ¬ record.state.awaits

/-- The destination keeps the settlement closed. -/
def closing (id : SettlementId) : Protocol NodeCall NodeAnswer SimulatedFiatAdapter :=
  keeping (fun _ record => record.Closed id) fun _ _ _ => True

section Closed

variable {secp : Secp} {rail : SimulatedFiatAdapter} {id : SettlementId}

/-- No outcome is found for a settlement that is closed. -/
theorem requestPayout_closed (requested : SettlementId) :
    Succeeds (closing id) (requestPayout requested) (fun _ _ => requested ≠ id) rail := by
  refine .bind (fetch_kept ?_)
  rintro fetched record _ rfl closed
  refine .bind (orFail_succeeds ?_)
  intro next legal
  obtain ⟨state, rfl⟩ := transition_requestPayout.mp legal
  have differs : record.id ≠ id := fun same => closed same (.inl state)
  cases reserved : record.sourceReservation with
  | none => exact .throw _ _ _
  | some reservation =>
      refine .bind (external_kept rfl ?_)
      intro later answer _ _
      cases answer with
      | ok outcome =>
          refine .bind (orFail_succeeds ?_)
          intro next _
          exact put_last (fun same => absurd same differs) fun _ _ => .pure differs
      | error error =>
          cases error with
          | reservationNotFound => exact .throw _ _ _
          | rejected reason =>
              refine .bind (orFail_succeeds ?_)
              intro next _
              exact put_last (fun same => absurd same differs) fun _ _ => .throw _ _ _
          | timeout =>
              refine .bind (orFail_succeeds ?_)
              intro next _
              exact put_last (fun same => absurd same differs) fun _ _ => .throw _ _ _

theorem reconcileUnknownPayout_closed (requested : SettlementId) :
    Succeeds (closing id) (reconcileUnknownPayout requested) (fun _ _ => requested ≠ id) rail := by
  refine .bind (fetch_kept ?_)
  rintro fetched record _ rfl closed
  split
  · exact .throw _ _ _
  · rename_i state
    have differs : record.id ≠ id :=
      fun same => closed same (.inr (Decidable.not_not.mp state))
    refine .bind (external_kept rfl ?_)
    intro later answer _ _
    refine .bind (orFail_succeeds ?_)
    intro found _
    cases found with
    | none => exact .throw _ _ _
    | some outcome =>
        refine .bind (orFail_succeeds ?_)
        intro next _
        exact put_last (fun same => absurd same differs) fun _ _ => .pure differs

/-- The requests for the outcome of a payout. -/
inductive AsksOutcome : PeerRoute → Prop
  | payout (now : Option ℕ) (raw : String) : AsksOutcome (.peerPayout now raw)
  | reconcile (now : Option ℕ) (raw : String) : AsksOutcome (.peerReconcilePayout now raw)

/-- The destination attests nothing of a settlement that is closed. -/
theorem servePeer_closed (node : Node secp) {route : PeerRoute} (asks : AsksOutcome route)
    (id : SettlementId) (rail : SimulatedFiatAdapter) :
    Succeeds (closing id) (node.servePeer route)
      (fun _ reply => ∀ attestation, reply.attestation = some attestation →
        attestation.settlementId ≠ id) rail := by
  cases asks with
  | payout now raw =>
      exact .map (answerPayout_attests requestPayout_closed now raw)
  | reconcile now raw =>
      exact .map (answerPayout_attests reconcileUnknownPayout_closed now raw)

end Closed

/-- The destination has closed the settlement, and nothing but its word could settle it. -/
structure Peers.Stuck (id : SettlementId) (state : Peers) : Prop where
  source : state.source.store.Keeps fun record => record.Backed (state.rail.forget id.toText)
  destination : state.destination.store.Keeps fun record => record.Prepared state.rail
  closed : state.destination.store.Keeps (SettlementRecord.Closed id)

section Stuck

variable {secp : Secp} {nodes : TwoNodes secp} {state : Peers} {id : SettlementId}

theorem Peers.Stuck.unsettled (stuck : state.Stuck id) (outcome : PayoutOutcome) :
    state.source.stored id ≠ some outcome.settled := by
  intro stored
  obtain ⟨record, found, settled⟩ := Option.map_eq_some_iff.mp stored
  have backed := stuck.source id record found
  have paid := backed.ended outcome (.inr settled)
  rw [backed.key, SettlementStore.get_id found, SimulatedFiatAdapter.payouts_forget_self] at paid
  cases paid

theorem SettlementId.toText_injective : Function.Injective SettlementId.toText := by
  intro first second same
  have read := SettlementId.fromHex_toText first
  rw [same, SettlementId.fromHex_toText] at read
  exact (Option.some.inj read).symm

/-- A run of a handler of the destination pays over a rail that only grows. -/
theorem exec_paying {rail : SimulatedFiatAdapter} {Value : Type}
    {ends : SimulatedFiatAdapter → Value → Prop} {program : Program NodeCall NodeAnswer Value}
    (follows : program.Follows paying ends rail)
    {world : World SimulatedFiatAdapter ScriptedLightning} (starts : world.adapter = rail)
    (prepared : world.store.Keeps fun record => record.Prepared rail) :
    ∃ later, ends later (exec World.respond program world).1 ∧
      (exec World.respond program world).2.adapter = later ∧ rail.Grows later ∧
      (exec World.respond program world).2.store.Keeps fun record => record.Prepared later := by
  have respects : ∀ known (world : World SimulatedFiatAdapter ScriptedLightning) call,
      (world.adapter = known ∧ rail.Grows known ∧
        world.store.Keeps fun record => record.Prepared known) →
      paying.permits known call →
      ∃ later, paying.moves known call (World.respond call world).1 later ∧
        ((World.respond call world).2.adapter = later ∧ rail.Grows later ∧
          (World.respond call world).2.store.Keeps fun record => record.Prepared later) := by
    rintro known world call ⟨rfl, grows, keeps⟩ permitted
    obtain ⟨more, told⟩ := SimulatedFiatAdapter.tells_respond call world
    obtain ⟨found, kept⟩ := keeps_respond (fun rail record => record.Prepared rail) world
      (keeps.mono fun _ prepared => prepared.grow more)
      (WritesKept.mono (fun _ prepared => prepared.grow more) permitted)
    exact ⟨_, ⟨more, found, told⟩, rfl, grows.trans more, kept⟩
  exact Follows.exec respects follows ⟨starts, .refl rail, prepared⟩

/-- A run of a handler that keeps the settlement closed leaves it closed. -/
theorem exec_closing {rail : SimulatedFiatAdapter} {Value : Type}
    {ends : SimulatedFiatAdapter → Value → Prop} {program : Program NodeCall NodeAnswer Value}
    (follows : program.Follows (closing id) ends rail)
    {world : World SimulatedFiatAdapter ScriptedLightning}
    (closed : world.store.Keeps (SettlementRecord.Closed id)) :
    ∃ later, ends later (exec World.respond program world).1 ∧
      (exec World.respond program world).2.store.Keeps (SettlementRecord.Closed id) := by
  have respects : ∀ known (world : World SimulatedFiatAdapter ScriptedLightning) call,
      world.store.Keeps (SettlementRecord.Closed id) → (closing id).permits known call →
      ∃ later, (closing id).moves known call (World.respond call world).1 later ∧
        (World.respond call world).2.store.Keeps (SettlementRecord.Closed id) := by
    intro known world call keeps permitted
    obtain ⟨found, kept⟩ := keeps_respond (fun _ record => SettlementRecord.Closed id record)
      world keeps permitted
    exact ⟨known, ⟨.refl known, found, trivial⟩, kept⟩
  exact Follows.exec respects follows closed

/-- A request for an outcome leaves the settlement closed, and the rail vouches for what is
signed without having heard of the settlement. -/
theorem Peers.Stuck.receive (nodes : TwoNodes secp) (stuck : state.Stuck id)
    {route : PeerRoute} (asks : AsksOutcome route) :
    (nodes.receive route state).2.Stuck id ∧
      (state.rail.forget id.toText).Grows ((nodes.receive route state).2.rail.forget id.toText) ∧
      ∀ attestation ∈ signed (nodes.receive route state).1,
        ((nodes.receive route state).2.rail.forget id.toText).Vouches attestation := by
  obtain ⟨rail, attests, adapter, grows, prepared⟩ :=
    exec_paying (servePeer_vouched nodes.destination route state.rail) rfl stuck.destination
  obtain ⟨_, others, closed⟩ :=
    exec_closing (servePeer_closed nodes.destination asks id state.rail) stuck.closed
  cases adapter
  refine ⟨⟨?_, prepared, closed⟩, grows.forget, ?_⟩
  · exact stuck.source.mono fun _ backed => backed.grow grows.forget
  · intro attestation member
    rw [TwoNodes.receive] at member
    cases ended : (exec World.respond (nodes.destination.servePeer route).run
        state.destination).1 with
    | error error =>
        rw [ended] at member
        cases member
    | ok reply =>
        rw [ended] at member
        have told := Option.mem_toList.mp member
        have differs := others reply ended attestation told
        have elsewhere : attestation.settlementId.toText ≠ id.toText :=
          fun same => differs (SettlementId.toText_injective same)
        exact (SimulatedFiatAdapter.payouts_forget elsewhere).trans
          (attests reply ended attestation told)

/-- A call of the source that begins no settlement leaves the settlement stuck. -/
theorem Peers.Stuck.exchange (stuck : state.Stuck id) (now : Option ℕ) (call : ApiCall)
    (permitted : (receiving nodes.source False).permits (state.rail.forget id.toText) call) :
    (receiving nodes.source False).moves (state.rail.forget id.toText) call
        (nodes.exchange now call state).1
        ((nodes.exchange now call state).2.rail.forget id.toText) ∧
      (nodes.exchange now call state).2.Stuck id := by
  cases call with
  | node call =>
      obtain ⟨found, keeps⟩ := keeps_respond (fun rail record => record.Backed rail)
        state.source stuck.source permitted
      exact ⟨⟨.refl _, found, trivial⟩, keeps, stuck.destination, stuck.closed⟩
  | peerPrepare request => exact permitted.elim
  | peerPayout raw =>
      obtain ⟨later, grows, vouched⟩ := stuck.receive nodes (.payout now raw)
      exact ⟨⟨grows, fun attestation said _ => vouched attestation (sent_signed said)⟩, later⟩
  | peerReconcile raw =>
      obtain ⟨later, grows, vouched⟩ := stuck.receive nodes (.reconcile now raw)
      exact ⟨⟨grows, fun attestation said _ => vouched attestation (sent_signed said)⟩, later⟩

theorem Peers.Stuck.round (stuck : state.Stuck id) {round : Round}
    (further : round.route.prepares = false) : (nodes.round round state).Stuck id := by
  have backed : Succeeds (receiving nodes.source False) (nodes.source.serve round.route)
      (fun _ _ => True) (state.rail.forget id.toText) := by
    refine serve_backed nodes.source ?_ _
    intro prepares
    rw [further] at prepares
    cases prepares
  have respects : ∀ known (state : Peers) call,
      (known = state.rail.forget id.toText ∧ state.Stuck id) →
      (receiving nodes.source False).permits known call →
      ∃ later, (receiving nodes.source False).moves known call
        (nodes.exchange round.now call state).1 later ∧
        (later = (nodes.exchange round.now call state).2.rail.forget id.toText ∧
          (nodes.exchange round.now call state).2.Stuck id) := by
    rintro _ state call ⟨rfl, stuck⟩ permitted
    obtain ⟨moved, kept⟩ := stuck.exchange round.now call permitted
    exact ⟨_, moved, rfl, kept⟩
  have surrounded : state.rail.forget id.toText = (round.within state).rail.forget id.toText ∧
      (round.within state).Stuck id :=
    ⟨rfl, stuck.source, stuck.destination, stuck.closed⟩
  obtain ⟨_, -, -, kept⟩ := Follows.exec respects backed surrounded
  exact kept

theorem Peers.Stuck.rounds {rounds : List Round} (stuck : state.Stuck id)
    (further : ∀ round ∈ rounds, round.route.prepares = false) :
    (nodes.rounds rounds state).Stuck id := by
  induction rounds generalizing state with
  | nil => exact stuck
  | cons round rest ih =>
      exact ih (stuck.round (further round List.mem_cons_self))
        fun other member => further other (List.mem_cons_of_mem _ member)

/-- **A settlement that its destination has closed is settled by no further call.** -/
theorem not_recoverable_of_stuck (stuck : state.Stuck id) (outcome : PayoutOutcome) :
    ¬ nodes.Recoverable state id outcome := by
  rintro ⟨rounds, further, settled⟩
  exact (stuck.rounds further).unsettled outcome settled

/-- A record that waits is stuck, once the record of the destination does not wait. -/
theorem stuck_of_closed (sound : state.Sound nodes) {record : SettlementRecord}
    (found : state.source.store.get id = some record) (pending : record.state.awaits)
    (closed : ∀ waiting, state.destination.store.get id = some waiting →
      ¬ waiting.state.awaits) : state.Stuck id where
  source other settled there := by
    have backed := sound.source other settled there
    by_cases same : other = id
    · subst same
      cases there.symm.trans found
      refine .of_pending backed.key ?_
      rcases pending with waits | waits
      all_goals
        rw [waits]
        rfl
    · refine ⟨backed.key, ?_⟩
      intro outcome state
      have elsewhere : settled.payoutIdempotencyKey ≠ id.toText := by
        rw [backed.key, SettlementStore.get_id there]
        exact fun equal => same (SettlementId.toText_injective equal)
      exact (SimulatedFiatAdapter.payouts_forget elsewhere).trans (backed.ended outcome state)
  destination := sound.destination
  closed other waiting there same := by
    rw [← same, SettlementStore.get_id there] at closed
    exact closed waiting there

/-- **Which settlements can be recovered: a payout has its outcome and the source waits for
it. Further calls settle the record as the payout ended exactly if the record of the
destination waits as well.** -/
theorem recoverable_iff (lawful : secp.Lawful) (paired : nodes.Paired)
    (reached : nodes.running.ReachableBy nodes.Unforged state) {outcome : PayoutOutcome}
    (paid : state.rail.payouts id.toText = some outcome) {record : SettlementRecord}
    (found : state.source.store.get id = some record) (pending : record.state.awaits) :
    nodes.Recoverable state id outcome ↔
      ∃ waiting, state.destination.store.get id = some waiting ∧ waiting.state.awaits := by
  have sound := peers_sound reached
  constructor
  · intro recoverable
    refine Decidable.byContradiction ?_
    intro closed
    refine not_recoverable_of_stuck (stuck_of_closed sound found pending ?_) outcome recoverable
    exact fun waiting there awaits => closed ⟨waiting, there, awaits⟩
  · rintro ⟨waiting, there, awaits⟩
    exact recoverable_of_awaits lawful paired sound paid found pending there awaits

end Stuck

/-! ## Answers that are lost -/

theorem pair_paired : pair.Paired := by
  rintro expected ⟨⟩
  rfl

/-- The first payout is going to time out, and to be paid. -/
def Peers.slow (state : Peers) : Peers :=
  { state with
    destination := { state.destination with
      adapter := state.rail.setBehavior firstId.toText .confirmedAfterTimeout } }

theorem reachable_slow {state : Peers} (reached : pair.running.ReachableBy pair.Unforged state) :
    pair.running.ReachableBy pair.Unforged state.slow := by
  have step : pair.running.step state (.setBehavior firstId.toText .confirmedAfterTimeout) =
      some state.slow := rfl
  refine .step reached ?_ step
  exact trivial

/-- The peer was asked for the first payout, and its answer was lost. -/
def Peers.asked (state : Peers) : Peers :=
  (pair.receive (.peerPayout (some 0) firstId.toText) state).2

theorem reachable_asked {state : Peers} (reached : pair.running.ReachableBy pair.Unforged state)
    (free : state.peerHandlers 0 = none) :
    pair.running.ReachableBy pair.Unforged state.asked :=
  reachable_receive reached free _

/-- A payout that was paid after the peer saw it time out is released. -/
theorem recoverable_iff_timedOut :
    pair.Recoverable preparedPair.slow.asked firstId .confirmed := by
  have reached := reachable_asked (reachable_slow preparedPair_reachable) preparedPair_idle.2
  have paid : preparedPair.slow.asked.rail.payouts firstId.toText = some .confirmed := rfl
  have stored : preparedPair.slow.asked.source.stored firstId =
      some .settlementConditionCreated := rfl
  have there : preparedPair.slow.asked.destination.stored firstId = some .payoutUnknown := rfl
  obtain ⟨record, found, pending⟩ := Option.map_eq_some_iff.mp stored
  obtain ⟨waiting, known, awaits⟩ := Option.map_eq_some_iff.mp there
  exact (recoverable_iff Secp.named_lawful pair_paired reached paid found (.inl pending)).mpr
    ⟨waiting, known, .inr awaits⟩

/-- A payout was paid, and the one answer that said so was lost: the source waits for it, and
nothing releases the settlement. -/
theorem lost_answer :
    pair.running.ReachableBy pair.Unforged preparedPair.asked ∧
      preparedPair.asked.rail.payouts firstId.toText = some .confirmed ∧
      preparedPair.asked.source.stored firstId = some .settlementConditionCreated ∧
      ¬ pair.Recoverable preparedPair.asked firstId .confirmed := by
  have reached := reachable_asked preparedPair_reachable preparedPair_idle.2
  have stored : preparedPair.asked.source.stored firstId =
      some .settlementConditionCreated := rfl
  have there : preparedPair.asked.destination.stored firstId = some .payoutConfirmed := rfl
  refine ⟨reached, rfl, stored, ?_⟩
  obtain ⟨record, found, pending⟩ := Option.map_eq_some_iff.mp stored
  refine not_recoverable_of_stuck
    (stuck_of_closed (peers_sound reached) found (.inl pending) ?_) _
  intro waiting known
  have moved : some waiting.state = some .payoutConfirmed := by
    rw [← there, World.stored, known, Option.map_some]
  rw [Option.some.inj moved]
  decide

end Safrod.Legacy

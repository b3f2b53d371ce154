import Safrod.Legacy.Api
import Safrod.Legacy.Writing

/-!
# What the rail says, and what the two nodes make of it

The rail of the destination only gains payouts and reservations. The source settles as the
rail says (`SettlementRecord.Backed`), and the destination has reserved what it is to pay
(`SettlementRecord.Prepared`).

Handlers of the two nodes run at the same time, so each of them is shown to keep this on its
own: it follows a protocol in which the rail is what is known, and may have grown at every
call.
-/

set_option autoImplicit false

namespace Safrod.Legacy

open Program

/-! ## The rail -/

namespace SimulatedFiatAdapter

/-- Nothing that was paid, refused or reserved is forgotten. -/
structure Grows (rail later : SimulatedFiatAdapter) : Prop where
  payouts : ∀ key outcome, rail.payouts key = some outcome → later.payouts key = some outcome
  holds : ∀ reservation, rail.Holds reservation → later.Holds reservation

theorem Grows.refl (rail : SimulatedFiatAdapter) : rail.Grows rail where
  payouts _ _ paid := paid
  holds _ held := held

theorem Grows.trans {first second third : SimulatedFiatAdapter} (before : first.Grows second)
    (after : second.Grows third) : first.Grows third where
  payouts key outcome paid := after.payouts key outcome (before.payouts key outcome paid)
  holds reservation held := after.holds reservation (before.holds reservation held)

theorem grows_setBehavior (rail : SimulatedFiatAdapter) (key : String)
    (behavior : SimulatedPayoutBehavior) : rail.Grows (rail.setBehavior key behavior) where
  payouts _ _ paid := paid
  holds _ held := held

theorem grows_reserve (rail : SimulatedFiatAdapter) (amount : FiatAmount) :
    rail.Grows (rail.reserve amount).2 where
  payouts _ _ paid := paid
  holds _ held := by
    obtain ⟨entry, member, same⟩ := held
    exact ⟨entry, List.mem_cons_of_mem _ member, same⟩

theorem grows_withPayout {rail : SimulatedFiatAdapter} {key : String}
    (absent : rail.payouts key = none) (outcome : PayoutOutcome) :
    rail.Grows (rail.withPayout key outcome) where
  payouts other known paid := by
    have differs : other ≠ key := by
      intro same
      rw [same, absent] at paid
      cases paid
    exact (Function.update_of_ne differs _ _).trans paid
  holds _ held := held

theorem grows_initiatePayout (rail : SimulatedFiatAdapter) (reservation : ReservationId)
    (beneficiary key : String) :
    rail.Grows (rail.initiatePayout reservation beneficiary key).2 := by
  unfold initiatePayout
  split
  · cases known : rail.payouts key with
    | some outcome => exact .refl rail
    | none =>
        dsimp only
        split
        all_goals exact grows_withPayout known _
  · exact .refl rail

/-- A payout that is answered is recorded. -/
theorem initiatePayout_recorded {rail : SimulatedFiatAdapter} {reservation : ReservationId}
    {beneficiary key : String} {outcome : PayoutOutcome}
    (answered : (rail.initiatePayout reservation beneficiary key).1 = .ok outcome) :
    (rail.initiatePayout reservation beneficiary key).2.payouts key = some outcome := by
  unfold initiatePayout at answered ⊢
  split at answered
  · rename_i held
    rw [if_pos held]
    cases known : rail.payouts key with
    | some recorded =>
        rw [known] at answered
        cases answered
        exact known
    | none =>
        rw [known] at answered
        dsimp only at answered ⊢
        split at answered
        · cases answered
          exact Function.update_self _ _ _
        · cases answered
        · cases answered
  · cases answered

/-- What the rail says of a payout. -/
def Vouches (rail : SimulatedFiatAdapter) (attestation : PayoutAttestation) : Prop :=
  rail.payouts attestation.settlementId.toText = some attestation.status

theorem Vouches.grow {rail later : SimulatedFiatAdapter} {attestation : PayoutAttestation}
    (vouches : rail.Vouches attestation) (grows : rail.Grows later) : later.Vouches attestation :=
  grows.payouts _ _ vouches

/-- What the answers to its calls say of the rail. -/
def Tells (rail : SimulatedFiatAdapter) : (call : NodeCall) → NodeAnswer call → Prop
  | .reserve _, answer => ∀ reservation, answer = .ok reservation → rail.Holds reservation
  | .initiatePayout _ _ key, answer =>
      ∀ outcome, answer = .ok outcome → rail.payouts key = some outcome
  | .queryPayout key, answer =>
      ∀ outcome, answer = .ok (some outcome) → rail.payouts key = some outcome
  | _, _ => True

/-- A call of the destination leaves a rail that is no less, and answers as the rail says. -/
theorem tells_respond {Lightning : Type} [LightningSettlement Lightning] (call : NodeCall)
    (world : World SimulatedFiatAdapter Lightning) :
    world.adapter.Grows (World.respond call world).2.adapter ∧
      (World.respond call world).2.adapter.Tells call (World.respond call world).1 := by
  cases call with
  | reserve amount =>
      refine ⟨grows_reserve world.adapter amount, ?_⟩
      intro reservation answered
      cases answered
      exact ⟨_, List.mem_cons_self, rfl⟩
  | initiatePayout reservation beneficiary key =>
      refine ⟨grows_initiatePayout world.adapter reservation beneficiary key, ?_⟩
      intro outcome answered
      exact initiatePayout_recorded answered
  | queryPayout key =>
      refine ⟨.refl world.adapter, ?_⟩
      intro outcome answered
      exact Except.ok.inj answered
  | _ => exact ⟨.refl world.adapter, trivial⟩

end SimulatedFiatAdapter

/-! ## Handlers while the rail grows -/

/-- What a read finds is kept. -/
def ReadsKept (kept : SimulatedFiatAdapter → SettlementRecord → Prop)
    (rail : SimulatedFiatAdapter) : (call : NodeCall) → NodeAnswer call → Prop
  | .get id, answer => ∀ record, answer = some record → record.id = id ∧ kept rail record
  | _, _ => True

/-- What is written is kept. -/
def WritesKept (kept : SimulatedFiatAdapter → SettlementRecord → Prop)
    (rail : SimulatedFiatAdapter) : NodeCall → Prop
  | .put record => kept rail record
  | _ => True

/-- A node that finds its records kept writes only such. -/
def keeping (kept : SimulatedFiatAdapter → SettlementRecord → Prop)
    (tells : SimulatedFiatAdapter → (call : NodeCall) → NodeAnswer call → Prop) :
    Protocol NodeCall NodeAnswer SimulatedFiatAdapter where
  permits := WritesKept kept
  moves rail call answer later :=
    rail.Grows later ∧ ReadsKept kept later call answer ∧ tells later call answer

section Keeping

variable {kept : SimulatedFiatAdapter → SettlementRecord → Prop}
  {tells : SimulatedFiatAdapter → (call : NodeCall) → NodeAnswer call → Prop}
  {rail : SimulatedFiatAdapter} {id : SettlementId} {First Second : Type}

theorem read_kept {ends : SimulatedFiatAdapter → Option SettlementRecord → Prop}
    (held : ∀ later answer, rail.Grows later →
      (∀ record, answer = some record → record.id = id ∧ kept later record) → ends later answer) :
    Succeeds (keeping kept tells) (Ask.get id) ends rail := by
  refine .ask trivial ?_
  rintro answer later ⟨grows, found, -⟩
  exact held later answer grows found

theorem fetch_kept {ends : SimulatedFiatAdapter → SettlementRecord → Prop}
    (held : ∀ later record, rail.Grows later → record.id = id → kept later record →
      ends later record) : Succeeds (keeping kept tells) (fetch id) ends rail := by
  refine .bind (read_kept ?_)
  intro later answer grows found
  cases answer with
  | none => exact .throw _ _ _
  | some record =>
      obtain ⟨same, keeps⟩ := found record rfl
      exact .pure (held later record grows same keeps)

theorem put_kept {record : SettlementRecord} (keeps : kept rail record)
    {ends : SimulatedFiatAdapter → Unit → Prop}
    (held : ∀ later, rail.Grows later → ends later ()) :
    Succeeds (keeping kept tells) (Ask.put record) ends rail := by
  refine .ask keeps ?_
  rintro ⟨⟩ later ⟨grows, -⟩
  exact held later grows

theorem external_kept {call : NodeCall} (external : call.isExternal = true)
    {ends : SimulatedFiatAdapter → NodeAnswer call → Prop}
    (held : ∀ later answer, rail.Grows later → tells later call answer → ends later answer) :
    Succeeds (keeping kept tells) (ask call) ends rail := by
  refine .ask ?_ ?_
  · cases call <;> first | exact trivial | cases external
  · rintro answer later ⟨grows, -, told⟩
    exact held later answer grows told

/-- A write that ends an operation. -/
theorem put_last {record : SettlementRecord} (keeps : kept rail record) {next : NodeProgram First}
    {ends : SimulatedFiatAdapter → First → Prop}
    (held : ∀ later, rail.Grows later → Succeeds (keeping kept tells) next ends later) :
    Succeeds (keeping kept tells) (Ask.put record >>= fun _ => next) ends rail :=
  .bind (put_kept keeps held)

end Keeping

/-! ## The source -/

/-- The state in which a payout has been settled as it ended. -/
def PayoutOutcome.settled : PayoutOutcome → SettlementState
  | confirmed => .settlementReleased
  | failed => .refunded

/-- A record that says how its payout ended says what the rail says. -/
structure SettlementRecord.Backed (rail : SimulatedFiatAdapter) (record : SettlementRecord) :
    Prop where
  key : record.payoutIdempotencyKey = record.id.toText
  ended : ∀ outcome : PayoutOutcome,
    record.state = outcome.state ∨ record.state = outcome.settled →
    rail.payouts record.payoutIdempotencyKey = some outcome

theorem SettlementRecord.Backed.grow {rail later : SimulatedFiatAdapter}
    {record : SettlementRecord} (backed : record.Backed rail) (grows : rail.Grows later) :
    record.Backed later where
  key := backed.key
  ended outcome state := grows.payouts _ _ (backed.ended outcome state)

/-- The payout has not ended. -/
def SettlementState.isPending : SettlementState → Bool
  | quoted | settlementConditionCreated | payoutUnknown => true
  | _ => false

theorem SettlementRecord.Backed.of_pending {rail : SimulatedFiatAdapter}
    {record : SettlementRecord} (key : record.payoutIdempotencyKey = record.id.toText)
    (pending : record.state.isPending = true) : record.Backed rail where
  key := key
  ended outcome state := by
    rcases state with state | state
    all_goals
      rw [state] at pending
      cases outcome <;> cases pending

/-- The source keeps its records as the rail says. -/
def backing : Protocol NodeCall NodeAnswer SimulatedFiatAdapter :=
  keeping (fun rail record => record.Backed rail) fun _ _ _ => True

section Source

variable {rail : SimulatedFiatAdapter}

theorem begin_backed (id : SettlementId) (fiatAmount : FiatAmount) (btcAmount : Millisatoshis)
    (counterparty : String) (expiry : Option ℕ) :
    Succeeds backing (beginSettlementWithQuoteExpiry id fiatAmount btcAmount counterparty expiry)
      (fun _ _ => True) rail := by
  refine .bind (orFail_succeeds ?_)
  rintro state ⟨⟩
  exact put_last (.of_pending rfl rfl) fun _ _ => .pure trivial

theorem attach_backed (now : Option ℕ) (id : SettlementId) (invoice : Bolt11Invoice) :
    Succeeds backing (attachCounterpartyInvoice now id invoice) (fun _ _ => True) rail := by
  refine .bind (fetch_kept ?_)
  intro fetched record _ _ backed
  split
  · exact .throw _ _ _
  · refine .bind (orFail_succeeds ?_)
    intro condition created
    by_cases state : record.state = .quoted
    · rw [state, conditionCreated_quoted] at created
      cases created
      refine .bind (external_kept rfl ?_)
      intro reserved answer _ _
      refine .bind (orFail_succeeds ?_)
      intro reservation _
      refine .bind (external_kept rfl ?_)
      intro accepted answer _ _
      refine .bind (orFail_succeeds ?_)
      intro _ _
      exact put_kept (.of_pending backed.key rfl) fun _ _ => trivial
    · rw [conditionCreated_of_ne state] at created
      cases created

theorem markUnknown_backed (id : SettlementId) :
    Succeeds backing (markPayoutUnknown id) (fun _ _ => True) rail := by
  refine .bind (fetch_kept ?_)
  intro fetched record _ _ backed
  refine .bind (orFail_succeeds ?_)
  intro requested legal
  obtain ⟨state, rfl⟩ := transition_requestPayout.mp legal
  refine .bind (orFail_succeeds ?_)
  rintro next ⟨⟩
  exact put_kept (.of_pending backed.key rfl) fun _ _ => trivial

/-- A state that a payout with the outcome leads to says nothing of another outcome. -/
theorem PayoutOutcome.eq_of_state {outcome other : PayoutOutcome}
    (same : outcome.state = other.state ∨ outcome.state = other.settled) : other = outcome := by
  cases outcome <;> cases other <;> first | rfl | (rcases same with same | same <;> cases same)

theorem PayoutOutcome.eq_of_settled {outcome other : PayoutOutcome}
    (same : outcome.settled = other.state ∨ outcome.settled = other.settled) : other = outcome := by
  cases outcome <;> cases other <;> first | rfl | (rcases same with same | same <;> cases same)

/-- An attestation that the rail vouches for is applied. -/
theorem apply_backed {secp : Secp} (node : Node secp) (attestation : PayoutAttestation)
    (vouched : node.authorize attestation = .ok () → rail.Vouches attestation) :
    Succeeds backing (node.applyPayoutAttestation attestation) (fun _ _ => True) rail := by
  refine .bind (orFail_succeeds ?_)
  intro _ authorized
  have vouches := vouched authorized
  refine .bind (fetch_kept ?_)
  intro fetched record grows same backed
  have written : ∀ later, rail.Grows later → Succeeds backing (Ask.put { record with
      state := attestation.status.state
      attestations := record.attestations ++ [attestation] }) (fun _ _ => True) later := by
    intro later grows
    refine put_kept ⟨backed.key, ?_⟩ fun _ _ => trivial
    intro outcome state
    cases PayoutOutcome.eq_of_state state
    have paid := (vouches.grow grows)
    rw [SimulatedFiatAdapter.Vouches, ← same] at paid
    exact (congrArg later.payouts backed.key).trans paid
  split
  · refine .bind (orFail_succeeds ?_)
    intro requested legal
    obtain ⟨-, rfl⟩ := transition_requestPayout.mp legal
    refine .bind (orFail_succeeds ?_)
    intro next moved
    rw [transition_observePayout] at moved
    cases moved
    exact written fetched grows
  · rename_i state
    refine .bind (orFail_succeeds ?_)
    intro next moved
    rw [state, transition_reconcileUnknown] at moved
    cases moved
    exact written fetched grows
  · exact .bind (.throw _ _ _)

/-- A record whose payout ended is settled as it ended. -/
theorem SettlementRecord.Backed.settled {record : SettlementRecord} (backed : record.Backed rail)
    (outcome : PayoutOutcome) (state : record.state = outcome.state) :
    SettlementRecord.Backed rail { record with state := outcome.settled } where
  key := backed.key
  ended other settled := by
    cases PayoutOutcome.eq_of_settled settled
    exact backed.ended outcome (.inl state)

theorem release_backed (id : SettlementId) :
    Succeeds backing (releaseSettlement id) (fun _ _ => True) rail := by
  refine .bind (fetch_kept ?_)
  intro fetched record _ _ backed
  refine .bind (orFail_succeeds ?_)
  intro next legal
  obtain ⟨state, rfl⟩ := transition_releaseSettlement.mp legal
  refine .bind (external_kept rfl ?_)
  intro released answer grows _
  refine .bind (orFail_succeeds ?_)
  intro preimage _
  exact put_last ((backed.grow grows).settled .confirmed state) fun _ _ => .pure trivial

theorem refund_backed (id : SettlementId) :
    Succeeds backing (refundSettlement id) (fun _ _ => True) rail := by
  refine .bind (fetch_kept ?_)
  intro fetched record _ _ backed
  refine .bind (orFail_succeeds ?_)
  intro next legal
  obtain ⟨state, rfl⟩ := transition_refund.mp legal
  refine .bind (external_kept rfl ?_)
  intro refunded answer grows _
  refine .bind (orFail_succeeds ?_)
  intro _ _
  exact put_kept ((backed.grow grows).settled .failed state) fun _ _ => trivial

end Source

/-! ## The handlers of the source -/

/-- The attestation in an answer of the peer. -/
def Api.attestationIn (answer : Option (Api.HttpResponse Api.PeerPayoutResponse)) :
    Option PayoutAttestation :=
  answer.bind fun response => response.body.bind (·.attestation)

def Api.ApiCall.evidence : (call : Api.ApiCall) → Api.ApiAnswer call → Option PayoutAttestation
  | .peerPayout _, answer => Api.attestationIn answer
  | .peerReconcile _, answer => Api.attestationIn answer
  | _, _ => none

/-- The source keeps its records as the rail says, where the rail vouches for every
attestation it may accept. It asks for invoices only where it prepares settlements. -/
def receiving {secp : Secp} (node : Node secp) (prepares : Prop) :
    Protocol Api.ApiCall Api.ApiAnswer SimulatedFiatAdapter where
  permits rail
    | .node call => backing.permits rail call
    | .peerPrepare _ => prepares
    | _ => True
  moves rail
    | .node call, answer, later => backing.moves rail call answer later
    | call, answer, later => rail.Grows later ∧ ∀ attestation,
        call.evidence answer = some attestation → node.authorize attestation = .ok () →
        later.Vouches attestation

/-- The route begins a settlement. -/
def Api.Route.prepares : Api.Route → Bool
  | .createSettlement _ _ _ _ => true
  | _ => false

section Handlers

open Api

variable {secp : Secp} {node : Node secp} {rail : SimulatedFiatAdapter} {Value : Type}
  {kept : SimulatedFiatAdapter → SettlementRecord → Prop}
  {tells : SimulatedFiatAdapter → (call : NodeCall) → NodeAnswer call → Prop} {prepares : Prop}

theorem onNode_succeeds {handler : Handler Value} {ends : SimulatedFiatAdapter → Value → Prop}
    (succeeds : Succeeds backing handler ends rail) :
    Succeeds (receiving node prepares) (onNode handler) ends rail := by
  have permits : ∀ rail call, backing.permits rail call →
      (receiving node prepares).permits rail (.node call) := fun _ _ permitted => permitted
  have moves : ∀ rail call (answer : ApiAnswer (.node call)) later,
      (receiving node prepares).moves rail (.node call) answer later →
        backing.moves rail call answer later := fun _ _ _ _ moved => moved
  exact Follows.embed permits moves succeeds

theorem parse_succeeds {Call : Type} {Answer : Call → Type} {Known : Type}
    {protocol : Protocol Call Answer Known} {raw : String} {ends : Known → SettlementId → Prop}
    {known : Known} (held : ∀ id, ends known id) :
    Succeeds protocol (parseSettlementId raw) ends known := by
  unfold parseSettlementId
  split
  · exact .throw _ _ _
  · exact .pure (held _)

theorem settlementState_succeeds {id : SettlementId}
    {ends : SimulatedFiatAdapter → Option SettlementState → Prop}
    (held : ∀ later answer, rail.Grows later → ends later answer) :
    Succeeds (keeping kept tells) (settlementState id) ends rail := by
  refine .bind (.ask trivial ?_)
  rintro answer later ⟨grows, -⟩
  exact .pure (held later _ grows)

theorem expectState_succeeds {id : SettlementId}
    {ends : SimulatedFiatAdapter → SettlementState → Prop}
    (held : ∀ later answer, rail.Grows later → ends later answer) :
    Succeeds (keeping kept tells) (expectState id) ends rail := by
  refine .bind (settlementState_succeeds ?_)
  intro later answer grows
  cases answer with
  | none => exact .throw _ _ _
  | some state => exact .pure (held later state grows)

/-- A handler that reports the state of the settlement last. -/
theorem respond_backed (raw : String) (id : SettlementId) :
    Succeeds backing (do return ⟨raw, ← expectState id⟩ : Handler SettlementResponse)
      (fun _ _ => True) rail :=
  .bind (expectState_succeeds fun _ _ _ => .pure trivial)

theorem conclude_backed (unexpected : Option SettlementState → ApiError) (id : SettlementId) :
    Succeeds backing (conclude unexpected id) (fun _ _ => True) rail := by
  refine .bind (settlementState_succeeds ?_)
  intro later answer _
  split
  · exact .bind ((release_backed id).mapError.mono fun _ _ _ => .pure trivial)
  · exact (refund_backed id).mapError
  · exact .throw _ _ _

theorem settleOn_backed (unexpected : Option SettlementState → ApiError) (raw : String)
    (id : SettlementId) (response : HttpResponse PeerPayoutResponse)
    (vouched : ∀ attestation, response.body.bind (·.attestation) = some attestation →
      node.authorize attestation = .ok () → rail.Vouches attestation) :
    Succeeds backing (settleOn node unexpected raw id response) (fun _ _ => True) rail := by
  unfold settleOn
  split
  · exact .throw _ _ _
  · exact .throw _ _ _
  · rename_i attestation said
    refine .bind ((apply_backed node attestation ?_).mapError.mono ?_)
    · refine vouched attestation ?_
      rw [said]
      rfl
    · intro _ _ _
      exact .bind ((conclude_backed unexpected id).mono fun _ _ _ => respond_backed raw id)

theorem createSettlement_backed (allowed : prepares) (now attachedAt : Option ℕ)
    (id : SettlementId) (request : CreateSettlementRequest) :
    Succeeds (receiving node prepares) (createSettlement now attachedAt id request)
      (fun _ _ => True) rail := by
  refine .bind (onNode_succeeds ((begin_backed _ _ _ _ _).mapError.mono ?_))
  intro _ begun _
  refine .bind (.ask allowed ?_)
  intro answer later _
  split
  · exact .throw _ _ _
  · split
    · split
      · exact .throw _ _ _
      · exact onNode_succeeds (.bind ((attach_backed _ _ _).mapError.mono fun _ _ _ =>
          respond_backed _ _))
    · exact .throw _ _ _

theorem settle_backed (raw : String) :
    Succeeds (receiving node prepares) (settle node raw) (fun _ _ => True) rail := by
  refine .bind (parse_succeeds ?_)
  intro id
  refine .bind (.ask trivial ?_)
  rintro answer later ⟨-, vouched⟩
  split
  · exact .throw _ _ _
  · rename_i response
    split
    · split
      · exact onNode_succeeds (.bind ((markUnknown_backed id).mapError.mono fun _ _ _ =>
          respond_backed raw id))
      · exact onNode_succeeds (settleOn_backed _ raw id response vouched)
    · exact .throw _ _ _

theorem reconcilePeerPayout_backed (raw : String) :
    Succeeds (receiving node prepares) (reconcilePeerPayout node raw) (fun _ _ => True) rail := by
  refine .bind (parse_succeeds ?_)
  intro id
  refine .bind (.ask trivial ?_)
  rintro answer later ⟨-, vouched⟩
  split
  · exact .throw _ _ _
  · rename_i response
    split
    · exact .pure trivial
    · split
      · exact onNode_succeeds (settleOn_backed _ raw id response vouched)
      · exact .throw _ _ _

/-- Every handler of the source keeps its records as the rail says. -/
theorem serve_backed (node : Node secp) {route : Route}
    (allowed : route.prepares = true → prepares) (rail : SimulatedFiatAdapter) :
    Succeeds (receiving node prepares) (node.serve route) (fun _ _ => True) rail := by
  cases route with
  | createSettlement now attachedAt id request =>
      exact createSettlement_backed (allowed rfl) _ _ _ _
  | settle raw => exact settle_backed raw
  | reconcilePeerPayout raw => exact reconcilePeerPayout_backed raw
  | releaseSettlement raw =>
      exact onNode_succeeds (.bind (parse_succeeds fun id => .bind
        ((release_backed id).mapError.mono fun _ _ _ => respond_backed raw id)))
  | refundSettlement raw =>
      exact onNode_succeeds (.bind (parse_succeeds fun id => .bind
        ((refund_backed id).mapError.mono fun _ _ _ => respond_backed raw id)))

end Handlers

/-! ## The destination -/

/-- A record of the destination has reserved what it is to pay. -/
structure SettlementRecord.Prepared (rail : SimulatedFiatAdapter) (record : SettlementRecord) :
    Prop where
  key : record.payoutIdempotencyKey = record.id.toText
  reserved : ∃ reservation, record.sourceReservation = some reservation ∧ rail.Holds reservation

theorem SettlementRecord.Prepared.grow {rail later : SimulatedFiatAdapter}
    {record : SettlementRecord} (prepared : record.Prepared rail) (grows : rail.Grows later) :
    record.Prepared later where
  key := prepared.key
  reserved := by
    obtain ⟨reservation, recorded, held⟩ := prepared.reserved
    exact ⟨reservation, recorded, grows.holds reservation held⟩

/-- The destination pays over its own rail. -/
def paying : Protocol NodeCall NodeAnswer SimulatedFiatAdapter :=
  keeping (fun rail record => record.Prepared rail) SimulatedFiatAdapter.Tells

section Destination

variable {rail : SimulatedFiatAdapter}

theorem createInvoice_prepared (id : SettlementId) (amount : Millisatoshis) :
    Succeeds paying (createSettlementInvoice id amount) (fun later _ => rail.Grows later) rail := by
  refine .bind (external_kept rfl ?_)
  intro later answer grows _
  exact orFail_succeeds fun _ _ => grows

theorem prepareDestination_prepared (now : Option ℕ) (id : SettlementId)
    (fiatAmount : FiatAmount) (btcAmount : Millisatoshis) (counterparty beneficiary : String)
    (expiry : Option ℕ) :
    Succeeds paying
      (prepareDestination now id fiatAmount btcAmount counterparty beneficiary expiry)
      (fun _ _ => True) rail := by
  refine .bind (read_kept ?_)
  intro read answer _ _
  cases answer with
  | some record => exact .throw _ _ _
  | none =>
      dsimp only
      split
      · exact .throw _ _ _
      · refine .bind (orFail_succeeds ?_)
        rintro begun ⟨⟩
        refine .bind (orFail_succeeds ?_)
        rintro state ⟨⟩
        refine .bind (external_kept rfl ?_)
        intro reserved answer _ told
        refine .bind (orFail_succeeds ?_)
        intro reservation answered
        refine .bind ((createInvoice_prepared id btcAmount).mono ?_)
        intro later invoice grows
        exact put_last ⟨rfl, reservation, rfl, grows.holds _ (told reservation answered)⟩
          fun _ _ => .pure trivial

/-- A payout that is answered is recorded, and the record keeps its reservation. -/
theorem requestPayout_prepared (id : SettlementId) :
    Succeeds paying (requestPayout id)
      (fun later outcome => later.payouts id.toText = some outcome) rail := by
  refine .bind (fetch_kept ?_)
  rintro fetched record _ rfl prepared
  refine .bind (orFail_succeeds ?_)
  intro requested legal
  obtain ⟨state, rfl⟩ := transition_requestPayout.mp legal
  have written : ∀ later, fetched.Grows later → ∀ next,
      SettlementRecord.Prepared later { record with state := next } :=
    fun later grows _ => ⟨prepared.key, (prepared.grow grows).reserved⟩
  cases reserved : record.sourceReservation with
  | none => exact .throw _ _ _
  | some reservation =>
      rw [reserved] at written
      refine .bind (external_kept rfl ?_)
      intro later answer grows told
      cases answer with
      | ok outcome =>
          refine .bind (orFail_succeeds ?_)
          intro next moved
          refine put_last (written later grows next) ?_
          intro last grows
          refine .pure ?_
          rw [← prepared.key]
          exact grows.payouts _ _ (told outcome rfl)
      | error error =>
          cases error with
          | rejected reason =>
              refine .bind (orFail_succeeds ?_)
              intro next moved
              exact put_last (written later grows next) fun _ _ => .throw _ _ _
          | timeout =>
              refine .bind (orFail_succeeds ?_)
              intro next moved
              exact put_last (written later grows next) fun _ _ => .throw _ _ _
          | reservationNotFound => exact .throw _ _ _

theorem reconcileUnknownPayout_prepared (id : SettlementId) :
    Succeeds paying (reconcileUnknownPayout id)
      (fun later outcome => later.payouts id.toText = some outcome) rail := by
  refine .bind (fetch_kept ?_)
  rintro fetched record _ rfl prepared
  split
  · exact .throw _ _ _
  · refine .bind (external_kept rfl ?_)
    intro later answer grows told
    refine .bind (orFail_succeeds ?_)
    intro found answered
    cases found with
    | none => exact .throw _ _ _
    | some outcome =>
        refine .bind (orFail_succeeds ?_)
        intro next moved
        refine put_last ⟨prepared.key, (prepared.grow grows).reserved⟩ ?_
        intro last grows
        refine .pure ?_
        rw [← prepared.key]
        exact grows.payouts _ _ (told outcome answered)

theorem recordPayoutAttestation_prepared {secp : Secp} (node : Node secp)
    (attestation : PayoutAttestation) :
    Succeeds paying (node.recordPayoutAttestation attestation) (fun _ _ => True) rail := by
  refine .bind (orFail_succeeds ?_)
  intro _ _
  refine .bind (fetch_kept ?_)
  intro fetched record _ _ prepared
  dsimp only
  split
  · refine .bind (orFail_succeeds ?_)
    intro next _
    exact put_last ⟨prepared.key, prepared.reserved⟩ fun _ _ => .throw _ _ _
  · exact put_kept ⟨prepared.key, prepared.reserved⟩ fun _ _ => trivial

end Destination

/-! ## The handlers of the destination -/

/-- The attestation in a reply. -/
def Api.PeerReply.attestation : Api.PeerReply → Option PayoutAttestation
  | .payout _ response => response.attestation
  | _ => none

section Peer

open Api

variable {secp : Secp} {node : Node secp} {rail : SimulatedFiatAdapter}

/-- What is attested is what the operation has found. -/
theorem answerPayout_attests {Known : Type} {protocol : Protocol NodeCall NodeAnswer Known}
    {known : Known} {holds : Known → SettlementId → PayoutOutcome → Prop} {pending : NodeError}
    {program : SettlementId → NodeProgram PayoutOutcome}
    (finds : ∀ id, Succeeds protocol (program id)
      (fun later outcome => holds later id outcome) known)
    (now : Option ℕ) (raw : String) :
    Succeeds protocol (answerPayout node pending program now raw)
      (fun later answer => ∀ attestation, answer.2.attestation = some attestation →
        holds later attestation.settlementId attestation.status) known := by
  refine .bind (parse_succeeds ?_)
  intro id
  refine .bind (.lift (Follows.mono ?_ (finds id)))
  intro later result found
  cases result with
  | error error =>
      dsimp only
      split
      · refine .pure ?_
        rintro attestation ⟨⟩
      · exact .throw _ _ _
  | ok outcome =>
      cases now with
      | none => exact .throw _ _ _
      | some seconds =>
          refine .pure ?_
          rintro attestation ⟨⟩
          exact found outcome rfl

/-- Every handler of the destination keeps its records prepared, and what it attests is what
the rail says. -/
theorem servePeer_vouched (node : Node secp) (route : PeerRoute) (rail : SimulatedFiatAdapter) :
    Succeeds paying (node.servePeer route)
      (fun later reply => ∀ attestation, reply.attestation = some attestation →
        later.Vouches attestation) rail := by
  cases route with
  | createInvoice request =>
      refine .map (.bind (parse_succeeds fun id => .bind
        ((createInvoice_prepared id _).mapError.mono fun _ _ _ => .pure ?_)))
      rintro attestation ⟨⟩
  | prepareDestination now request =>
      refine .map (.bind (parse_succeeds fun id => .bind
        ((prepareDestination_prepared _ _ _ _ _ _ _).mapError.mono fun _ _ _ => .pure ?_)))
      rintro attestation ⟨⟩
  | peerPayout now raw => exact .map (answerPayout_attests requestPayout_prepared now raw)
  | peerReconcilePayout now raw =>
      exact .map (answerPayout_attests reconcileUnknownPayout_prepared now raw)
  | receiveAttestation attestation =>
      refine .map ((recordPayoutAttestation_prepared node attestation).mapError.mono ?_)
      rintro _ _ _ other ⟨⟩

end Peer

end Safrod.Legacy

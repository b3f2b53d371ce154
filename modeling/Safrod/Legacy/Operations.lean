import Safrod.Library.Machine
import Safrod.Legacy.World

/-!
# Sequences of node operations

Completed operations one after another, and what the surroundings do between them. An
operation is one run of its program. `Rejected` lists the checks that fail before anything
happened, `Performed` what an operation does otherwise, and `perform_performed` says there
is nothing else.
-/

set_option autoImplicit false

namespace Safrod.Legacy

/-- An operation with its arguments, the time it reads and the identifier it draws. -/
inductive Operation where
  | beginSettlement (id : SettlementId) (fiatAmount : FiatAmount) (btcAmount : Millisatoshis)
      (counterparty : String) (quoteExpiresAtUnix : Option ℕ)
  | beginSettlementFromQuote (now : Option ℕ) (id : SettlementId) (quote : ExecutableQuote)
      (counterparty : String)
  | attachCounterpartyInvoice (now : Option ℕ) (id : SettlementId) (invoice : Bolt11Invoice)
  | createSettlementInvoice (id : SettlementId) (btcAmount : Millisatoshis)
  | prepareDestination (now : Option ℕ) (id : SettlementId) (fiatAmount : FiatAmount)
      (btcAmount : Millisatoshis) (counterparty beneficiary : String)
      (quoteExpiresAtUnix : Option ℕ)
  | requestPayout (id : SettlementId)
  | applyPayoutAttestation (attestation : PayoutAttestation)
  | markPayoutUnknown (id : SettlementId)
  | reconcileUnknownPayout (id : SettlementId)
  | releaseSettlement (id : SettlementId)
  | refundSettlement (id : SettlementId)
  | recordPayoutAttestation (attestation : PayoutAttestation)
  | recover

/-- What an operation returns. -/
inductive Reply where
  | done
  | settlement (id : SettlementId)
  | invoice (invoice : Bolt11Invoice)
  | outcome (outcome : PayoutOutcome)
  | preimage (preimage : PaymentPreimage)

/-- The identifier an operation draws. -/
def Operation.draws : Operation → Option SettlementId
  | .beginSettlement id _ _ _ _ => some id
  | .beginSettlementFromQuote _ id _ _ => some id
  | _ => none

/-- The attestation an operation receives. -/
def Operation.brings : Operation → Option PayoutAttestation
  | .applyPayoutAttestation attestation => some attestation
  | .recordPayoutAttestation attestation => some attestation
  | _ => none

/-- How the quote terms are written as JSON, and a node. -/
structure Daemon (secp : Secp) extends Node secp where
  toJson : QuoteTerms → List UInt8

namespace Daemon

variable {secp : Secp} (daemon : Daemon secp)

def program : Operation → NodeProgram Reply
  | .beginSettlement id fiatAmount btcAmount counterparty expiry =>
      Reply.settlement <$>
        beginSettlementWithQuoteExpiry id fiatAmount btcAmount counterparty expiry
  | .beginSettlementFromQuote now id quote counterparty =>
      Reply.settlement <$>
        daemon.toNode.beginSettlementFromQuote daemon.toJson now id quote counterparty
  | .attachCounterpartyInvoice now id invoice =>
      (fun _ => Reply.done) <$> attachCounterpartyInvoice now id invoice
  | .createSettlementInvoice id btcAmount => Reply.invoice <$> createSettlementInvoice id btcAmount
  | .prepareDestination now id fiatAmount btcAmount counterparty beneficiary expiry =>
      Reply.invoice <$>
        prepareDestination now id fiatAmount btcAmount counterparty beneficiary expiry
  | .requestPayout id => Reply.outcome <$> requestPayout id
  | .applyPayoutAttestation attestation =>
      (fun _ => Reply.done) <$> daemon.toNode.applyPayoutAttestation attestation
  | .markPayoutUnknown id => (fun _ => Reply.done) <$> markPayoutUnknown id
  | .reconcileUnknownPayout id => Reply.outcome <$> reconcileUnknownPayout id
  | .releaseSettlement id => Reply.preimage <$> releaseSettlement id
  | .refundSettlement id => (fun _ => Reply.done) <$> refundSettlement id
  | .recordPayoutAttestation attestation =>
      (fun _ => Reply.done) <$> daemon.toNode.recordPayoutAttestation attestation
  | .recover => (fun _ => Reply.done) <$> recover

/-- An operation, from its first call to its end. -/
def perform {Adapter Lightning : Type} [FiatAdapter Adapter] [LightningSettlement Lightning]
    (operation : Operation) (world : World Adapter Lightning) :
    Except NodeError Reply × World Adapter Lightning :=
  run (daemon.program operation) world

end Daemon

/-! ## What an operation can do -/

theorem conditionCreated_quoted :
    conditionCreated .quoted = .ok .settlementConditionCreated := rfl

theorem conditionCreated_of_ne {state : SettlementState} (other : state ≠ .quoted) :
    conditionCreated state = .error ⟨state, .reserveSource⟩ := by
  cases state <;> first | rfl | exact absurd rfl other

/-- The checks that fail before anything happened. -/
inductive Rejected {secp : Secp} (daemon : Daemon secp) (store : SettlementStore) :
    Operation → NodeError → Prop
  | quoteRefused (now : Option ℕ) (id : SettlementId) (quote : ExecutableQuote)
      (counterparty : String) (error : QuoteError) :
      Rejected daemon store (.beginSettlementFromQuote now id quote counterparty) (.quote error)
  | attachUnknown (now : Option ℕ) (id : SettlementId) (invoice : Bolt11Invoice)
      (missing : store.get id = none) :
      Rejected daemon store (.attachCounterpartyInvoice now id invoice) (.unknownSettlement id)
  | attachExpired (now : Option ℕ) (id : SettlementId) (invoice : Bolt11Invoice)
      (record : SettlementRecord) (found : store.get id = some record)
      (expired : quoteIsExpired now record = true) :
      Rejected daemon store (.attachCounterpartyInvoice now id invoice) .quoteExpired
  | attachIllegal (now : Option ℕ) (id : SettlementId) (invoice : Bolt11Invoice)
      (record : SettlementRecord) (found : store.get id = some record)
      (illegal : record.state ≠ .quoted) :
      Rejected daemon store (.attachCounterpartyInvoice now id invoice)
        (.transition ⟨record.state, .reserveSource⟩)
  | prepareKnown (now : Option ℕ) (id : SettlementId) (fiatAmount : FiatAmount)
      (btcAmount : Millisatoshis) (counterparty beneficiary : String) (expiry : Option ℕ)
      (record : SettlementRecord) (found : store.get id = some record) :
      Rejected daemon store
        (.prepareDestination now id fiatAmount btcAmount counterparty beneficiary expiry)
        (.transition ⟨.settlementConditionCreated, .quote⟩)
  | prepareExpired (now : Option ℕ) (id : SettlementId) (fiatAmount : FiatAmount)
      (btcAmount : Millisatoshis) (counterparty beneficiary : String) (expiry : Option ℕ)
      (missing : store.get id = none) (expired : expiry.any (hasReached now) = true) :
      Rejected daemon store
        (.prepareDestination now id fiatAmount btcAmount counterparty beneficiary expiry)
        .quoteExpired
  | payoutUnknown (id : SettlementId) (missing : store.get id = none) :
      Rejected daemon store (.requestPayout id) (.unknownSettlement id)
  | payoutIllegal (id : SettlementId) (record : SettlementRecord)
      (found : store.get id = some record) (illegal : record.state ≠ .settlementConditionCreated) :
      Rejected daemon store (.requestPayout id) (.transition ⟨record.state, .requestPayout⟩)
  | payoutUnreserved (id : SettlementId) (record : SettlementRecord)
      (found : store.get id = some record) (state : record.state = .settlementConditionCreated)
      (unreserved : record.sourceReservation = none) :
      Rejected daemon store (.requestPayout id) .missingReservation
  | applyUnauthorized (attestation : PayoutAttestation) (error : NodeError)
      (unauthorized : daemon.toNode.authorize attestation = .error error) :
      Rejected daemon store (.applyPayoutAttestation attestation) error
  | applyUnknown (attestation : PayoutAttestation)
      (authorized : daemon.toNode.authorize attestation = .ok ())
      (missing : store.get attestation.settlementId = none) :
      Rejected daemon store (.applyPayoutAttestation attestation)
        (.unknownSettlement attestation.settlementId)
  | applyIllegal (attestation : PayoutAttestation) (record : SettlementRecord)
      (authorized : daemon.toNode.authorize attestation = .ok ())
      (found : store.get attestation.settlementId = some record)
      (notCreated : record.state ≠ .settlementConditionCreated)
      (notUnknown : record.state ≠ .payoutUnknown) :
      Rejected daemon store (.applyPayoutAttestation attestation)
        (.transition ⟨record.state, .requestPayout⟩)
  | recordUnauthorized (attestation : PayoutAttestation) (error : NodeError)
      (unauthorized : daemon.toNode.authorize attestation = .error error) :
      Rejected daemon store (.recordPayoutAttestation attestation) error
  | recordUnknown (attestation : PayoutAttestation)
      (authorized : daemon.toNode.authorize attestation = .ok ())
      (missing : store.get attestation.settlementId = none) :
      Rejected daemon store (.recordPayoutAttestation attestation)
        (.unknownSettlement attestation.settlementId)
  | recordIllegal (attestation : PayoutAttestation) (record : SettlementRecord)
      (authorized : daemon.toNode.authorize attestation = .ok ())
      (found : store.get attestation.settlementId = some record)
      (conflicts : ∃ existing ∈ record.attestations, existing.status ≠ attestation.status)
      (illegal : record.state.mayDispute = false) :
      Rejected daemon store (.recordPayoutAttestation attestation)
        (.transition ⟨record.state, .dispute⟩)
  | markUnknown (id : SettlementId) (missing : store.get id = none) :
      Rejected daemon store (.markPayoutUnknown id) (.unknownSettlement id)
  | markIllegal (id : SettlementId) (record : SettlementRecord)
      (found : store.get id = some record) (illegal : record.state ≠ .settlementConditionCreated) :
      Rejected daemon store (.markPayoutUnknown id) (.transition ⟨record.state, .requestPayout⟩)
  | reconcileUnknown (id : SettlementId) (missing : store.get id = none) :
      Rejected daemon store (.reconcileUnknownPayout id) (.unknownSettlement id)
  | reconcileIllegal (id : SettlementId) (record : SettlementRecord)
      (found : store.get id = some record) (illegal : record.state ≠ .payoutUnknown) :
      Rejected daemon store (.reconcileUnknownPayout id) (.notReconcilable record.state)
  | releaseUnknown (id : SettlementId) (missing : store.get id = none) :
      Rejected daemon store (.releaseSettlement id) (.unknownSettlement id)
  | releaseIllegal (id : SettlementId) (record : SettlementRecord)
      (found : store.get id = some record) (illegal : record.state ≠ .payoutConfirmed) :
      Rejected daemon store (.releaseSettlement id) (.transition ⟨record.state, .releaseSettlement⟩)
  | refundUnknown (id : SettlementId) (missing : store.get id = none) :
      Rejected daemon store (.refundSettlement id) (.unknownSettlement id)
  | refundIllegal (id : SettlementId) (record : SettlementRecord)
      (found : store.get id = some record) (illegal : record.state ≠ .payoutFailed) :
      Rejected daemon store (.refundSettlement id) (.transition ⟨record.state, .refund⟩)

/-- The record of a settlement that begins. -/
def begunRecord (id : SettlementId) (fiatAmount : FiatAmount) (btcAmount : Millisatoshis)
    (counterparty : String) (expiry : Option ℕ) (quote : Option ExecutableQuote) :
    SettlementRecord where
  id := id
  state := .quoted
  fiatAmount := fiatAmount
  btcAmount := btcAmount
  counterparty := counterparty
  beneficiary := ""
  payoutIdempotencyKey := id.toText
  quoteExpiresAtUnix := expiry
  quote := quote
  sourceReservation := none
  counterpartyInvoice := none
  attestations := []

/-- The record of a destination that is prepared. -/
def preparedRecord (id : SettlementId) (fiatAmount : FiatAmount) (btcAmount : Millisatoshis)
    (counterparty beneficiary : String) (expiry : Option ℕ) (reservation : ReservationId) :
    SettlementRecord where
  id := id
  state := .settlementConditionCreated
  fiatAmount := fiatAmount
  btcAmount := btcAmount
  counterparty := counterparty
  beneficiary := beneficiary
  payoutIdempotencyKey := id.toText
  quoteExpiresAtUnix := expiry
  quote := none
  sourceReservation := some reservation
  counterpartyInvoice := none
  attestations := []

section Effects

variable {Adapter Lightning : Type} [FiatAdapter Adapter] [LightningSettlement Lightning]

/-- Giving the backend the invoices of stored settlements, until it refuses one. -/
inductive Accepted : List SettlementRecord → World Adapter Lightning → Except NodeError Unit →
    World Adapter Lightning → Prop
  | nil (world : World Adapter Lightning) : Accepted [] world (.ok ()) world
  | skipped (record : SettlementRecord) (rest : List SettlementRecord)
      (world after : World Adapter Lightning) (answer : Except NodeError Unit)
      (skips : record.counterpartyInvoice = none ∨ isReleasable record.state = false)
      (later : Accepted rest world answer after) : Accepted (record :: rest) world answer after
  | refused (record : SettlementRecord) (rest : List SettlementRecord)
      (world after : World Adapter Lightning) (invoice : Bolt11Invoice) (error : LightningError)
      (stored : record.counterpartyInvoice = some invoice)
      (releasable : isReleasable record.state = true)
      (called : World.respond (.acceptSettlementInvoice record.id record.btcAmount invoice) world =
        (.error error, after)) : Accepted (record :: rest) world (.error (.lightning error)) after
  | accepted (record : SettlementRecord) (rest : List SettlementRecord)
      (world between after : World Adapter Lightning) (invoice : Bolt11Invoice)
      (answer : Except NodeError Unit) (stored : record.counterpartyInvoice = some invoice)
      (releasable : isReleasable record.state = true)
      (called : World.respond (.acceptSettlementInvoice record.id record.btcAmount invoice) world =
        (.ok (), between))
      (later : Accepted rest between answer after) : Accepted (record :: rest) world answer after

/-- The ways an operation ends. -/
inductive Performed {secp : Secp} (daemon : Daemon secp) (world : World Adapter Lightning) :
    Operation → Except NodeError Reply → World Adapter Lightning → Prop
  | rejected (operation : Operation) (error : NodeError)
      (why : Rejected daemon world.store operation error) :
      Performed daemon world operation (.error error) world
  | begun (id : SettlementId) (fiatAmount : FiatAmount) (btcAmount : Millisatoshis)
      (counterparty : String) (expiry : Option ℕ) :
      Performed daemon world (.beginSettlement id fiatAmount btcAmount counterparty expiry)
        (.ok (.settlement id))
        (world.putRecord (begunRecord id fiatAmount btcAmount counterparty expiry none))
  | begunFromQuote (now : Option ℕ) (id : SettlementId) (quote : ExecutableQuote)
      (counterparty : String) :
      Performed daemon world (.beginSettlementFromQuote now id quote counterparty)
        (.ok (.settlement id))
        (world.putRecord (begunRecord id quote.terms.sourceAmount quote.terms.settlementAmount
          counterparty (some quote.terms.expiresAtUnix) (some quote)))
  | attachUnreserved (now : Option ℕ) (id : SettlementId) (invoice : Bolt11Invoice)
      (record : SettlementRecord) (error : AdapterError) (after : World Adapter Lightning)
      (found : world.store.get id = some record) (current : quoteIsExpired now record = false)
      (state : record.state = .quoted)
      (called : World.respond (.reserve record.fiatAmount) world = (.error error, after)) :
      Performed daemon world (.attachCounterpartyInvoice now id invoice) (.error (.adapter error))
        after
  | attachRefused (now : Option ℕ) (id : SettlementId) (invoice : Bolt11Invoice)
      (record : SettlementRecord) (reservation : ReservationId) (error : LightningError)
      (between after : World Adapter Lightning)
      (found : world.store.get id = some record) (current : quoteIsExpired now record = false)
      (state : record.state = .quoted)
      (called : World.respond (.reserve record.fiatAmount) world = (.ok reservation, between))
      (refused : World.respond (.acceptSettlementInvoice id record.btcAmount invoice) between =
        (.error error, after)) :
      Performed daemon world (.attachCounterpartyInvoice now id invoice)
        (.error (.lightning error)) after
  | attached (now : Option ℕ) (id : SettlementId) (invoice : Bolt11Invoice)
      (record : SettlementRecord) (reservation : ReservationId)
      (between after : World Adapter Lightning)
      (found : world.store.get id = some record) (current : quoteIsExpired now record = false)
      (state : record.state = .quoted)
      (called : World.respond (.reserve record.fiatAmount) world = (.ok reservation, between))
      (accepted : World.respond (.acceptSettlementInvoice id record.btcAmount invoice) between =
        (.ok (), after)) :
      Performed daemon world (.attachCounterpartyInvoice now id invoice) (.ok .done)
        (after.putRecord { record with
          state := .settlementConditionCreated
          sourceReservation := some reservation
          counterpartyInvoice := some invoice })
  | invoiceRefused (id : SettlementId) (amount : Millisatoshis) (error : LightningError)
      (after : World Adapter Lightning)
      (called : World.respond (.createSettlementInvoice id amount) world = (.error error, after)) :
      Performed daemon world (.createSettlementInvoice id amount) (.error (.lightning error)) after
  | invoiceCreated (id : SettlementId) (amount : Millisatoshis) (invoice : Bolt11Invoice)
      (after : World Adapter Lightning)
      (called : World.respond (.createSettlementInvoice id amount) world = (.ok invoice, after)) :
      Performed daemon world (.createSettlementInvoice id amount) (.ok (.invoice invoice)) after
  | prepareUnreserved (now : Option ℕ) (id : SettlementId) (fiatAmount : FiatAmount)
      (btcAmount : Millisatoshis) (counterparty beneficiary : String) (expiry : Option ℕ)
      (error : AdapterError) (after : World Adapter Lightning)
      (missing : world.store.get id = none) (current : expiry.any (hasReached now) = false)
      (called : World.respond (.reserve fiatAmount) world = (.error error, after)) :
      Performed daemon world
        (.prepareDestination now id fiatAmount btcAmount counterparty beneficiary expiry)
        (.error (.adapter error)) after
  | prepareRefused (now : Option ℕ) (id : SettlementId) (fiatAmount : FiatAmount)
      (btcAmount : Millisatoshis) (counterparty beneficiary : String) (expiry : Option ℕ)
      (reservation : ReservationId) (error : LightningError)
      (between after : World Adapter Lightning) (missing : world.store.get id = none)
      (current : expiry.any (hasReached now) = false)
      (called : World.respond (.reserve fiatAmount) world = (.ok reservation, between))
      (refused : World.respond (.createSettlementInvoice id btcAmount) between =
        (.error error, after)) :
      Performed daemon world
        (.prepareDestination now id fiatAmount btcAmount counterparty beneficiary expiry)
        (.error (.lightning error)) after
  | prepared (now : Option ℕ) (id : SettlementId) (fiatAmount : FiatAmount)
      (btcAmount : Millisatoshis) (counterparty beneficiary : String) (expiry : Option ℕ)
      (reservation : ReservationId) (invoice : Bolt11Invoice)
      (between after : World Adapter Lightning) (missing : world.store.get id = none)
      (current : expiry.any (hasReached now) = false)
      (called : World.respond (.reserve fiatAmount) world = (.ok reservation, between))
      (created : World.respond (.createSettlementInvoice id btcAmount) between =
        (.ok invoice, after)) :
      Performed daemon world
        (.prepareDestination now id fiatAmount btcAmount counterparty beneficiary expiry)
        (.ok (.invoice invoice))
        (after.putRecord
          (preparedRecord id fiatAmount btcAmount counterparty beneficiary expiry reservation))
  | payoutUnreserved (id : SettlementId) (record : SettlementRecord)
      (reservation : ReservationId) (after : World Adapter Lightning)
      (found : world.store.get id = some record)
      (state : record.state = .settlementConditionCreated)
      (reserved : record.sourceReservation = some reservation)
      (called : World.respond
        (.initiatePayout reservation record.beneficiary record.payoutIdempotencyKey) world =
          (.error .reservationNotFound, after)) :
      Performed daemon world (.requestPayout id) (.error .missingReservation) after
  | payoutAnswered (id : SettlementId) (record : SettlementRecord)
      (reservation : ReservationId) (outcome : PayoutOutcome) (after : World Adapter Lightning)
      (found : world.store.get id = some record)
      (state : record.state = .settlementConditionCreated)
      (reserved : record.sourceReservation = some reservation)
      (called : World.respond
        (.initiatePayout reservation record.beneficiary record.payoutIdempotencyKey) world =
          (.ok outcome, after)) :
      Performed daemon world (.requestPayout id) (.ok (.outcome outcome))
        (after.putRecord { record with state := outcome.state })
  | payoutRejected (id : SettlementId) (record : SettlementRecord)
      (reservation : ReservationId) (reason : String) (after : World Adapter Lightning)
      (found : world.store.get id = some record)
      (state : record.state = .settlementConditionCreated)
      (reserved : record.sourceReservation = some reservation)
      (called : World.respond
        (.initiatePayout reservation record.beneficiary record.payoutIdempotencyKey) world =
          (.error (.rejected reason), after)) :
      Performed daemon world (.requestPayout id) (.error (.payoutRejected reason))
        (after.putRecord { record with state := .payoutFailed })
  | payoutTimedOut (id : SettlementId) (record : SettlementRecord)
      (reservation : ReservationId) (after : World Adapter Lightning)
      (found : world.store.get id = some record)
      (state : record.state = .settlementConditionCreated)
      (reserved : record.sourceReservation = some reservation)
      (called : World.respond
        (.initiatePayout reservation record.beneficiary record.payoutIdempotencyKey) world =
          (.error .timeout, after)) :
      Performed daemon world (.requestPayout id) (.error .payoutUnknown)
        (after.putRecord { record with state := .payoutUnknown })
  | applied (attestation : PayoutAttestation) (record : SettlementRecord)
      (authorized : daemon.toNode.authorize attestation = .ok ())
      (found : world.store.get attestation.settlementId = some record)
      (state : record.state = .settlementConditionCreated ∨ record.state = .payoutUnknown) :
      Performed daemon world (.applyPayoutAttestation attestation) (.ok .done)
        (world.putRecord { record with
          state := attestation.status.state
          attestations := record.attestations ++ [attestation] })
  | marked (id : SettlementId) (record : SettlementRecord)
      (found : world.store.get id = some record)
      (state : record.state = .settlementConditionCreated) :
      Performed daemon world (.markPayoutUnknown id) (.ok .done)
        (world.putRecord { record with state := .payoutUnknown })
  | reconcileFailed (id : SettlementId) (record : SettlementRecord) (error : AdapterError)
      (after : World Adapter Lightning) (found : world.store.get id = some record)
      (state : record.state = .payoutUnknown)
      (called : World.respond (.queryPayout record.payoutIdempotencyKey) world =
        (.error error, after)) :
      Performed daemon world (.reconcileUnknownPayout id) (.error (.adapter error)) after
  | stillUnknown (id : SettlementId) (record : SettlementRecord)
      (after : World Adapter Lightning) (found : world.store.get id = some record)
      (state : record.state = .payoutUnknown)
      (called : World.respond (.queryPayout record.payoutIdempotencyKey) world =
        (.ok none, after)) :
      Performed daemon world (.reconcileUnknownPayout id) (.error .stillUnknown) after
  | reconciled (id : SettlementId) (record : SettlementRecord) (outcome : PayoutOutcome)
      (after : World Adapter Lightning) (found : world.store.get id = some record)
      (state : record.state = .payoutUnknown)
      (called : World.respond (.queryPayout record.payoutIdempotencyKey) world =
        (.ok (some outcome), after)) :
      Performed daemon world (.reconcileUnknownPayout id) (.ok (.outcome outcome))
        (after.putRecord { record with state := outcome.state })
  | releaseFailed (id : SettlementId) (record : SettlementRecord) (error : LightningError)
      (after : World Adapter Lightning) (found : world.store.get id = some record)
      (state : record.state = .payoutConfirmed)
      (called : World.respond (.release id) world = (.error error, after)) :
      Performed daemon world (.releaseSettlement id) (.error (.lightning error)) after
  | released (id : SettlementId) (record : SettlementRecord) (preimage : PaymentPreimage)
      (after : World Adapter Lightning) (found : world.store.get id = some record)
      (state : record.state = .payoutConfirmed)
      (called : World.respond (.release id) world = (.ok preimage, after)) :
      Performed daemon world (.releaseSettlement id) (.ok (.preimage preimage))
        (after.putRecord { record with state := .settlementReleased })
  | refundFailed (id : SettlementId) (record : SettlementRecord) (error : LightningError)
      (after : World Adapter Lightning) (found : world.store.get id = some record)
      (state : record.state = .payoutFailed)
      (called : World.respond (.refund id) world = (.error error, after)) :
      Performed daemon world (.refundSettlement id) (.error (.lightning error)) after
  | refunded (id : SettlementId) (record : SettlementRecord) (after : World Adapter Lightning)
      (found : world.store.get id = some record) (state : record.state = .payoutFailed)
      (called : World.respond (.refund id) world = (.ok (), after)) :
      Performed daemon world (.refundSettlement id) (.ok .done)
        (after.putRecord { record with state := .refunded })
  | conflicted (attestation : PayoutAttestation) (record : SettlementRecord)
      (authorized : daemon.toNode.authorize attestation = .ok ())
      (found : world.store.get attestation.settlementId = some record)
      (conflicts : ∃ existing ∈ record.attestations, existing.status ≠ attestation.status)
      (state : record.state.mayDispute = true) :
      Performed daemon world (.recordPayoutAttestation attestation) (.error .conflictingEvidence)
        (world.putRecord { record with
          state := .disputed
          attestations := record.attestations ++ [attestation] })
  | recorded (attestation : PayoutAttestation) (record : SettlementRecord)
      (authorized : daemon.toNode.authorize attestation = .ok ())
      (found : world.store.get attestation.settlementId = some record)
      (agrees : ∀ existing ∈ record.attestations, existing.status = attestation.status) :
      Performed daemon world (.recordPayoutAttestation attestation) (.ok .done)
        (world.putRecord { record with attestations := record.attestations ++ [attestation] })
  | recovered (answer : Except NodeError Unit) (after : World Adapter Lightning)
      (accepted : Accepted world.store.listPending world answer after) :
      Performed daemon world .recover (answer.map fun _ => .done) after

/-! ## There is nothing else -/

section Ends

variable {secp : Secp} (daemon : Daemon secp) (world : World Adapter Lightning)

theorem begin_performed (id : SettlementId) (fiatAmount : FiatAmount) (btcAmount : Millisatoshis)
    (counterparty : String) (expiry : Option ℕ) :
    Performed daemon world (.beginSettlement id fiatAmount btcAmount counterparty expiry)
      (daemon.perform (.beginSettlement id fiatAmount btcAmount counterparty expiry) world).1
      (daemon.perform (.beginSettlement id fiatAmount btcAmount counterparty expiry) world).2 :=
  .begun id fiatAmount btcAmount counterparty expiry

theorem beginFromQuote_performed (now : Option ℕ) (id : SettlementId) (quote : ExecutableQuote)
    (counterparty : String) :
    Performed daemon world (.beginSettlementFromQuote now id quote counterparty)
      (daemon.perform (.beginSettlementFromQuote now id quote counterparty) world).1
      (daemon.perform (.beginSettlementFromQuote now id quote counterparty) world).2 := by
  simp only [Daemon.perform, Daemon.program, run_map, Node.beginSettlementFromQuote]
  cases peer : daemon.peerIdentity with
  | none => exact .rejected _ _ (.quoteRefused now id quote counterparty .wrongProviders)
  | some key =>
      simp only [run_bind]
      cases verified : Quote.verify secp daemon.toJson quote key
          (secp.publicKey daemon.signingKey) key (now.getD 0) with
      | error error => exact .rejected _ _ (.quoteRefused now id quote counterparty error)
      | ok _ => exact .begunFromQuote now id quote counterparty

theorem attach_performed (now : Option ℕ) (id : SettlementId) (invoice : Bolt11Invoice) :
    Performed daemon world (.attachCounterpartyInvoice now id invoice)
      (daemon.perform (.attachCounterpartyInvoice now id invoice) world).1
      (daemon.perform (.attachCounterpartyInvoice now id invoice) world).2 := by
  simp only [Daemon.perform, Daemon.program, run_map, attachCounterpartyInvoice, run_bind]
  cases found : world.store.get id with
  | none =>
      simp only [run_fetch_none world found, after_error]
      exact .rejected _ _ (.attachUnknown now id invoice found)
  | some record =>
      simp only [run_fetch_some world found, after_ok]
      cases expired : quoteIsExpired now record with
      | true => exact .rejected _ _ (.attachExpired now id invoice record found expired)
      | false =>
          by_cases state : record.state = .quoted
          · simp only [state, conditionCreated_quoted, Bool.false_eq_true, if_false, run_bind,
              run_orFail_ok, after_ok, run_reserve]
            cases called : World.respond (.reserve record.fiatAmount) world with
            | mk answer between =>
                cases answer with
                | error error =>
                    exact .attachUnreserved now id invoice record error between found expired state
                      called
                | ok reservation =>
                    simp only [run_orFail_ok, after_ok, run_bind, run_acceptSettlementInvoice]
                    cases accepted : World.respond
                        (.acceptSettlementInvoice id record.btcAmount invoice) between with
                    | mk answer after =>
                        cases answer with
                        | error error =>
                            exact .attachRefused now id invoice record reservation error between
                              after found expired state called accepted
                        | ok _ =>
                            exact .attached now id invoice record reservation between after found
                              expired state called accepted
          · simp only [conditionCreated_of_ne state, Bool.false_eq_true, if_false, run_bind,
              run_orFail_error, after_error]
            exact .rejected _ _ (.attachIllegal now id invoice record found state)

theorem createInvoice_performed (id : SettlementId) (amount : Millisatoshis) :
    Performed daemon world (.createSettlementInvoice id amount)
      (daemon.perform (.createSettlementInvoice id amount) world).1
      (daemon.perform (.createSettlementInvoice id amount) world).2 := by
  simp only [Daemon.perform, Daemon.program, run_map, createSettlementInvoice, run_bind,
    run_createSettlementInvoice, after_ok]
  cases called : World.respond (.createSettlementInvoice id amount) world with
  | mk answer after =>
      cases answer with
      | error error => exact .invoiceRefused id amount error after called
      | ok invoice => exact .invoiceCreated id amount invoice after called

theorem prepare_performed (now : Option ℕ) (id : SettlementId) (fiatAmount : FiatAmount)
    (btcAmount : Millisatoshis) (counterparty beneficiary : String) (expiry : Option ℕ) :
    Performed daemon world
      (.prepareDestination now id fiatAmount btcAmount counterparty beneficiary expiry)
      (daemon.perform (.prepareDestination now id fiatAmount btcAmount counterparty beneficiary
        expiry) world).1
      (daemon.perform (.prepareDestination now id fiatAmount btcAmount counterparty beneficiary
        expiry) world).2 := by
  simp only [Daemon.perform, Daemon.program, run_map, prepareDestination, run_bind, run_get,
    after_ok]
  cases found : world.store.get id with
  | some record =>
      exact .rejected _ _ (.prepareKnown now id fiatAmount btcAmount counterparty beneficiary
        expiry record found)
  | none =>
      cases expired : expiry.any (hasReached now) with
      | true =>
          exact .rejected _ _ (.prepareExpired now id fiatAmount btcAmount counterparty beneficiary
            expiry found expired)
      | false =>
          have begun : transition .created .quote = .ok .quoted := rfl
          simp only [begun, conditionCreated_quoted, Bool.false_eq_true, if_false, run_bind,
            run_orFail_ok, after_ok, run_reserve]
          cases called : World.respond (.reserve fiatAmount) world with
          | mk answer between =>
              cases answer with
              | error error =>
                  exact .prepareUnreserved now id fiatAmount btcAmount counterparty beneficiary
                    expiry error between found expired called
              | ok reservation =>
                  simp only [run_orFail_ok, after_ok, createSettlementInvoice, run_bind,
                    run_createSettlementInvoice]
                  cases created : World.respond (.createSettlementInvoice id btcAmount)
                      between with
                  | mk answer after =>
                      cases answer with
                      | error error =>
                          exact .prepareRefused now id fiatAmount btcAmount counterparty
                            beneficiary expiry reservation error between after found expired
                            called created
                      | ok invoice =>
                          exact .prepared now id fiatAmount btcAmount counterparty beneficiary
                            expiry reservation invoice between after found expired called created

theorem requestPayout_performed (id : SettlementId) :
    Performed daemon world (.requestPayout id)
      (daemon.perform (.requestPayout id) world).1
      (daemon.perform (.requestPayout id) world).2 := by
  simp only [Daemon.perform, Daemon.program, run_map, requestPayout, run_bind]
  cases found : world.store.get id with
  | none =>
      simp only [run_fetch_none world found, after_error]
      exact .rejected _ _ (.payoutUnknown id found)
  | some record =>
      simp only [run_fetch_some world found, after_ok]
      cases legal : transition record.state .requestPayout with
      | error error =>
          rw [transition_error legal]
          refine .rejected _ _ (.payoutIllegal id record found ?_)
          intro state
          rw [state] at legal
          cases legal
      | ok requested =>
          obtain ⟨state, rfl⟩ := transition_requestPayout.mp legal
          simp only [run_bind, run_orFail_ok, after_ok]
          cases reserved : record.sourceReservation with
          | none => exact .rejected _ _ (.payoutUnreserved id record found state reserved)
          | some reservation =>
              simp only [run_bind, run_initiatePayout, after_ok]
              cases called : World.respond (.initiatePayout reservation record.beneficiary
                  record.payoutIdempotencyKey) world with
              | mk answer after =>
                  cases answer with
                  | ok outcome =>
                      simp only [run_bind, transition_observePayout, run_orFail_ok, after_ok]
                      rw [← reserved]
                      exact .payoutAnswered id record reservation outcome after found state
                        reserved called
                  | error error =>
                      cases error with
                      | rejected reason =>
                          rw [← reserved]
                          exact .payoutRejected id record reservation reason after found state
                            reserved called
                      | timeout =>
                          rw [← reserved]
                          exact .payoutTimedOut id record reservation after found state reserved
                            called
                      | reservationNotFound =>
                          exact .payoutUnreserved id record reservation after found state reserved
                            called

theorem apply_performed (attestation : PayoutAttestation) :
    Performed daemon world (.applyPayoutAttestation attestation)
      (daemon.perform (.applyPayoutAttestation attestation) world).1
      (daemon.perform (.applyPayoutAttestation attestation) world).2 := by
  simp only [Daemon.perform, Daemon.program, run_map, Node.applyPayoutAttestation, run_bind]
  cases authorized : daemon.toNode.authorize attestation with
  | error error => exact .rejected _ _ (.applyUnauthorized attestation error authorized)
  | ok _ =>
      simp only [run_bind, run_orFail_ok, after_ok]
      cases found : world.store.get attestation.settlementId with
      | none =>
          simp only [run_fetch_none world found, after_error]
          exact .rejected _ _ (.applyUnknown attestation authorized found)
      | some record =>
          simp only [run_fetch_some world found, after_ok]
          cases state : record.state with
          | settlementConditionCreated =>
              have legal : transition .settlementConditionCreated .requestPayout =
                .ok .payoutRequested := rfl
              simp only [run_bind, legal, transition_observePayout, run_orFail_ok, after_ok]
              exact .applied attestation record authorized found (.inl state)
          | payoutUnknown =>
              simp only [transition_reconcileUnknown]
              exact .applied attestation record authorized found (.inr state)
          | _ =>
              have illegal : Rejected daemon world.store (.applyPayoutAttestation attestation) _ :=
                .applyIllegal attestation record authorized found (by rw [state]; decide)
                  (by rw [state]; decide)
              rw [state] at illegal
              exact .rejected _ _ illegal

theorem markUnknown_performed (id : SettlementId) :
    Performed daemon world (.markPayoutUnknown id)
      (daemon.perform (.markPayoutUnknown id) world).1
      (daemon.perform (.markPayoutUnknown id) world).2 := by
  simp only [Daemon.perform, Daemon.program, run_map, markPayoutUnknown, run_bind]
  cases found : world.store.get id with
  | none =>
      simp only [run_fetch_none world found, after_error]
      exact .rejected _ _ (.markUnknown id found)
  | some record =>
      simp only [run_fetch_some world found, after_ok]
      cases legal : transition record.state .requestPayout with
      | error error =>
          rw [transition_error legal]
          refine .rejected _ _ (.markIllegal id record found ?_)
          intro state
          rw [state] at legal
          cases legal
      | ok requested =>
          obtain ⟨state, rfl⟩ := transition_requestPayout.mp legal
          exact .marked id record found state

theorem reconcile_performed (id : SettlementId) :
    Performed daemon world (.reconcileUnknownPayout id)
      (daemon.perform (.reconcileUnknownPayout id) world).1
      (daemon.perform (.reconcileUnknownPayout id) world).2 := by
  simp only [Daemon.perform, Daemon.program, run_map, reconcileUnknownPayout, run_bind]
  cases found : world.store.get id with
  | none =>
      simp only [run_fetch_none world found, after_error]
      exact .rejected _ _ (.reconcileUnknown id found)
  | some record =>
      simp only [run_fetch_some world found, after_ok]
      by_cases state : record.state = .payoutUnknown
      · simp only [state, ne_eq, not_true_eq_false, if_false, run_bind, run_queryPayout, after_ok]
        cases called : World.respond (.queryPayout record.payoutIdempotencyKey) world with
        | mk answer after =>
            cases answer with
            | error error => exact .reconcileFailed id record error after found state called
            | ok outcome =>
                cases outcome with
                | none => exact .stillUnknown id record after found state called
                | some outcome =>
                    simp only [run_orFail_ok, after_ok, run_bind, transition_reconcileUnknown]
                    exact .reconciled id record outcome after found state called
      · rw [if_pos state]
        exact .rejected _ _ (.reconcileIllegal id record found state)

theorem release_performed (id : SettlementId) :
    Performed daemon world (.releaseSettlement id)
      (daemon.perform (.releaseSettlement id) world).1
      (daemon.perform (.releaseSettlement id) world).2 := by
  simp only [Daemon.perform, Daemon.program, run_map, releaseSettlement, run_bind]
  cases found : world.store.get id with
  | none =>
      simp only [run_fetch_none world found, after_error]
      exact .rejected _ _ (.releaseUnknown id found)
  | some record =>
      simp only [run_fetch_some world found, after_ok]
      cases legal : transition record.state .releaseSettlement with
      | error error =>
          rw [transition_error legal]
          refine .rejected _ _ (.releaseIllegal id record found ?_)
          intro state
          rw [state] at legal
          cases legal
      | ok next =>
          obtain ⟨state, rfl⟩ := transition_releaseSettlement.mp legal
          simp only [run_bind, run_orFail_ok, after_ok, run_release]
          cases called : World.respond (.release id) world with
          | mk answer after =>
              cases answer with
              | error error => exact .releaseFailed id record error after found state called
              | ok preimage => exact .released id record preimage after found state called

theorem refund_performed (id : SettlementId) :
    Performed daemon world (.refundSettlement id)
      (daemon.perform (.refundSettlement id) world).1
      (daemon.perform (.refundSettlement id) world).2 := by
  simp only [Daemon.perform, Daemon.program, run_map, refundSettlement, run_bind]
  cases found : world.store.get id with
  | none =>
      simp only [run_fetch_none world found, after_error]
      exact .rejected _ _ (.refundUnknown id found)
  | some record =>
      simp only [run_fetch_some world found, after_ok]
      cases legal : transition record.state .refund with
      | error error =>
          rw [transition_error legal]
          refine .rejected _ _ (.refundIllegal id record found ?_)
          intro state
          rw [state] at legal
          cases legal
      | ok next =>
          obtain ⟨state, rfl⟩ := transition_refund.mp legal
          simp only [run_bind, run_orFail_ok, after_ok, run_refund]
          cases called : World.respond (.refund id) world with
          | mk answer after =>
              cases answer with
              | error error => exact .refundFailed id record error after found state called
              | ok _ => exact .refunded id record after found state called

theorem record_performed (attestation : PayoutAttestation) :
    Performed daemon world (.recordPayoutAttestation attestation)
      (daemon.perform (.recordPayoutAttestation attestation) world).1
      (daemon.perform (.recordPayoutAttestation attestation) world).2 := by
  simp only [Daemon.perform, Daemon.program, run_map, Node.recordPayoutAttestation, run_bind]
  cases authorized : daemon.toNode.authorize attestation with
  | error error => exact .rejected _ _ (.recordUnauthorized attestation error authorized)
  | ok _ =>
      simp only [run_bind, run_orFail_ok, after_ok]
      cases found : world.store.get attestation.settlementId with
      | none =>
          simp only [run_fetch_none world found, after_error]
          exact .rejected _ _ (.recordUnknown attestation authorized found)
      | some record =>
          simp only [run_fetch_some world found, after_ok]
          by_cases conflicts : ∃ existing ∈ record.attestations,
              existing.status ≠ attestation.status
          · rw [if_pos conflicts]
            simp only [run_bind]
            cases legal : transition record.state .dispute with
            | error error =>
                rw [transition_error legal]
                refine .rejected _ _ (.recordIllegal attestation record authorized found conflicts
                  ?_)
                cases may : record.state.mayDispute with
                | false => rfl
                | true =>
                    rw [transition_dispute.mpr ⟨may, rfl⟩] at legal
                    cases legal
            | ok next =>
                obtain ⟨state, rfl⟩ := transition_dispute.mp legal
                exact .conflicted attestation record authorized found conflicts state
          · rw [if_neg conflicts]
            refine .recorded attestation record authorized found ?_
            intro existing member
            by_contra differs
            exact conflicts ⟨existing, member, differs⟩

theorem acceptStored_accepted (records : List SettlementRecord)
    (world : World Adapter Lightning) :
    Accepted records world (run (acceptStored records) world).1
      (run (acceptStored records) world).2 := by
  induction records generalizing world with
  | nil => exact .nil world
  | cons record rest ih =>
      simp only [acceptStored]
      cases stored : record.counterpartyInvoice with
      | none => exact .skipped record rest world _ _ (.inl stored) (ih world)
      | some invoice =>
          cases releasable : isReleasable record.state with
          | false => exact .skipped record rest world _ _ (.inr releasable) (ih world)
          | true =>
              simp only [if_true, run_bind, run_acceptSettlementInvoice, after_ok]
              cases called : World.respond
                  (.acceptSettlementInvoice record.id record.btcAmount invoice) world with
              | mk answer between =>
                  cases answer with
                  | error error =>
                      exact .refused record rest world between invoice error stored releasable
                        called
                  | ok _ =>
                      exact .accepted record rest world between _ invoice _ stored releasable
                        called (ih between)

theorem recover_performed :
    Performed daemon world .recover (daemon.perform .recover world).1
      (daemon.perform .recover world).2 := by
  have accepted := acceptStored_accepted world.store.listPending world
  simp only [Daemon.perform, Daemon.program, run_map, recover, run_bind, run_listPending, after_ok]
  cases ran : run (acceptStored world.store.listPending) world with
  | mk answer after =>
      rw [ran] at accepted
      have ended : Performed daemon world .recover _ after := .recovered answer after accepted
      cases answer <;> exact ended

/-- An operation ends in one of the ways that `Performed` lists. -/
theorem perform_performed (operation : Operation) :
    Performed daemon world operation (daemon.perform operation world).1
      (daemon.perform operation world).2 := by
  cases operation with
  | beginSettlement id fiatAmount btcAmount counterparty expiry =>
      exact begin_performed daemon world id fiatAmount btcAmount counterparty expiry
  | beginSettlementFromQuote now id quote counterparty =>
      exact beginFromQuote_performed daemon world now id quote counterparty
  | attachCounterpartyInvoice now id invoice => exact attach_performed daemon world now id invoice
  | createSettlementInvoice id amount => exact createInvoice_performed daemon world id amount
  | prepareDestination now id fiatAmount btcAmount counterparty beneficiary expiry =>
      exact prepare_performed daemon world now id fiatAmount btcAmount counterparty beneficiary
        expiry
  | requestPayout id => exact requestPayout_performed daemon world id
  | applyPayoutAttestation attestation => exact apply_performed daemon world attestation
  | markPayoutUnknown id => exact markUnknown_performed daemon world id
  | reconcileUnknownPayout id => exact reconcile_performed daemon world id
  | releaseSettlement id => exact release_performed daemon world id
  | refundSettlement id => exact refund_performed daemon world id
  | recordPayoutAttestation attestation => exact record_performed daemon world attestation
  | recover => exact recover_performed daemon world

end Ends

end Effects

end Safrod.Legacy

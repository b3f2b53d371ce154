import Safrod.Library.Program
import Safrod.Legacy.Store

/-!
# The node

The operations of a node as programs of the calls they make on the store, the fiat adapter
and the Lightning backend, in the order of the source. A program stops with a `NodeError`
at the first check that fails. The time and a drawn identifier are arguments.
-/

set_option autoImplicit false

namespace Safrod.Legacy

/-! ## Calls -/

inductive AdapterError where
  | rejected (reason : String)
  | timeout
  | reservationNotFound
  deriving DecidableEq

inductive LightningError where
  | insufficientLiquidity
  | peerUnreachable
  | amountMismatch
  | malformedInvoice (detail : String)
  | noRecordedInvoice
  | backend (detail : String)
  /-- The call panicked. -/
  | panicked
  deriving DecidableEq

structure PaymentPreimage where
  bytes : List UInt8
  deriving DecidableEq

inductive NodeCall where
  | get (id : SettlementId)
  | put (record : SettlementRecord)
  | listPending
  | reserve (amount : FiatAmount)
  | initiatePayout (reservation : ReservationId) (beneficiary idempotencyKey : String)
  | queryPayout (idempotencyKey : String)
  | createSettlementInvoice (id : SettlementId) (amount : Millisatoshis)
  | acceptSettlementInvoice (id : SettlementId) (expectedAmount : Millisatoshis)
      (invoice : Bolt11Invoice)
  | release (id : SettlementId)
  | refund (id : SettlementId)
  deriving DecidableEq

abbrev NodeAnswer : NodeCall → Type
  | .get _ => Option SettlementRecord
  | .put _ => Unit
  | .listPending => List SettlementRecord
  | .reserve _ => Except AdapterError ReservationId
  | .initiatePayout _ _ _ => Except AdapterError PayoutOutcome
  | .queryPayout _ => Except AdapterError (Option PayoutOutcome)
  | .createSettlementInvoice _ _ => Except LightningError Bolt11Invoice
  | .acceptSettlementInvoice _ _ _ => Except LightningError Unit
  | .release _ => Except LightningError PaymentPreimage
  | .refund _ => Except LightningError Unit

inductive NodeError where
  | unknownSettlement (id : SettlementId)
  | missingReservation
  | transition (error : TransitionError)
  | adapter (error : AdapterError)
  | lightning (error : LightningError)
  | payoutRejected (reason : String)
  | payoutUnknown
  | quoteExpired
  | quote (error : QuoteError)
  | notReconcilable (state : SettlementState)
  | stillUnknown
  | invalidAttestation (error : AttestationError)
  | unexpectedAttestationSigner
  | conflictingEvidence
  deriving DecidableEq

abbrev NodeProgram : Type → Type := ExceptT NodeError (Program NodeCall NodeAnswer)

/-- One call. -/
def ask (call : NodeCall) : NodeProgram (NodeAnswer call) := ExceptT.lift (Program.call call)

namespace Ask

def get (id : SettlementId) : NodeProgram (Option SettlementRecord) :=
  ask (.get id)

def put (record : SettlementRecord) : NodeProgram Unit :=
  ask (.put record)

def listPending : NodeProgram (List SettlementRecord) := ask .listPending

def reserve (amount : FiatAmount) : NodeProgram (Except AdapterError ReservationId) :=
  ask (.reserve amount)

def initiatePayout (reservation : ReservationId) (beneficiary idempotencyKey : String) :
    NodeProgram (Except AdapterError PayoutOutcome) :=
  ask (.initiatePayout reservation beneficiary idempotencyKey)

def queryPayout (idempotencyKey : String) :
    NodeProgram (Except AdapterError (Option PayoutOutcome)) :=
  ask (.queryPayout idempotencyKey)

def createSettlementInvoice (id : SettlementId) (amount : Millisatoshis) :
    NodeProgram (Except LightningError Bolt11Invoice) :=
  ask (.createSettlementInvoice id amount)

def acceptSettlementInvoice (id : SettlementId) (expectedAmount : Millisatoshis)
    (invoice : Bolt11Invoice) : NodeProgram (Except LightningError Unit) :=
  ask (.acceptSettlementInvoice id expectedAmount invoice)

def release (id : SettlementId) : NodeProgram (Except LightningError PaymentPreimage) :=
  ask (.release id)

def refund (id : SettlementId) : NodeProgram (Except LightningError Unit) :=
  ask (.refund id)

end Ask

/-- `?` with `map_err`. -/
def orFail {Error Value : Type} (wrap : Error → NodeError) : Except Error Value → NodeProgram Value
  | .error error => throw (wrap error)
  | .ok value => pure value

def fetch (id : SettlementId) : NodeProgram SettlementRecord := do
  match ← Ask.get id with
  | none => throw (.unknownSettlement id)
  | some record => pure record

/-! ## Operations -/

structure Node (secp : Secp) where
  signingKey : secp.SecretKey
  /-- The one peer whose attestations may affect this node's settlements. -/
  peerIdentity : Option secp.PublicKey

/-- A clock before the epoch has reached every expiry. -/
def hasReached (now : Option ℕ) (expiry : ℕ) : Bool :=
  match now with
  | none => true
  | some seconds => decide (expiry ≤ seconds)

def quoteIsExpired (now : Option ℕ) (record : SettlementRecord) : Bool :=
  match record.quote with
  | some quote => hasReached now quote.terms.expiresAtUnix
  | none =>
      match record.quoteExpiresAtUnix with
      | none => false
      | some expiry => hasReached now expiry

/-- The states between a quote and its settlement condition. -/
def conditionCreated (state : SettlementState) : Except TransitionError SettlementState := do
  let reservedSource ← transition state .reserveSource
  let reservedDestination ← transition reservedSource .reserveDestination
  transition reservedDestination .createSettlementCondition

def beginSettlementWithQuoteExpiry (id : SettlementId) (fiatAmount : FiatAmount)
    (btcAmount : Millisatoshis) (counterparty : String) (quoteExpiresAtUnix : Option ℕ) :
    NodeProgram SettlementId := do
  let state ← orFail .transition (transition .created .quote)
  Ask.put {
    id := id
    state := state
    fiatAmount := fiatAmount
    btcAmount := btcAmount
    counterparty := counterparty
    beneficiary := ""
    payoutIdempotencyKey := id.toText
    quoteExpiresAtUnix := quoteExpiresAtUnix
    quote := none
    sourceReservation := none
    counterpartyInvoice := none
    attestations := [] }
  return id

namespace Node

variable {secp : Secp} (node : Node secp)

/-- Starts a settlement only after accepting the peer's signed quote. -/
def beginSettlementFromQuote (toJson : QuoteTerms → List UInt8) (now : Option ℕ)
    (id : SettlementId) (quote : ExecutableQuote) (counterparty : String) :
    NodeProgram SettlementId := do
  match node.peerIdentity with
  | none => throw (.quote .wrongProviders)
  | some peer =>
      orFail .quote
        (Quote.verify secp toJson quote peer (secp.publicKey node.signingKey) peer (now.getD 0))
      let state ← orFail .transition (transition .created .quote)
      Ask.put {
        id := id
        state := state
        fiatAmount := quote.terms.sourceAmount
        btcAmount := quote.terms.settlementAmount
        counterparty := counterparty
        beneficiary := ""
        payoutIdempotencyKey := id.toText
        quoteExpiresAtUnix := some quote.terms.expiresAtUnix
        quote := some quote
        sourceReservation := none
        counterpartyInvoice := none
        attestations := [] }
      return id

/-- The signature holds, and the signer is the configured peer. -/
def authorize (attestation : PayoutAttestation) : Except NodeError Unit := do
  (Attestation.verify secp attestation).mapError .invalidAttestation
  match node.peerIdentity with
  | none => return ()
  | some expected =>
      match secp.fromSlice attestation.signerPubkey with
      | none => .error (.invalidAttestation .malformed)
      | some actual => if actual ≠ expected then .error .unexpectedAttestationSigner else return ()

def signPayoutAttestation (settlementId : SettlementId) (status : PayoutOutcome)
    (evidenceRef : String) (observedAtUnix : ℕ) : PayoutAttestation :=
  Attestation.sign secp node.signingKey settlementId status evidenceRef observedAtUnix

/-- Applies evidence of the destination rail to the record of the source. -/
def applyPayoutAttestation (attestation : PayoutAttestation) : NodeProgram Unit := do
  orFail id (node.authorize attestation)
  let record ← fetch attestation.settlementId
  let state ← match record.state with
    | .settlementConditionCreated => do
        let requested ← orFail .transition (transition record.state .requestPayout)
        orFail .transition (transition requested (.observePayout (some attestation.status)))
    | .payoutUnknown =>
        orFail .transition (transition record.state (.reconcileUnknown attestation.status))
    | state => throw (.transition ⟨state, .requestPayout⟩)
  Ask.put { record with state := state, attestations := record.attestations ++ [attestation] }

/-- Evidence that disagrees with what is stored makes a dispute. -/
def recordPayoutAttestation (attestation : PayoutAttestation) : NodeProgram Unit := do
  orFail id (node.authorize attestation)
  let record ← fetch attestation.settlementId
  let attestations := record.attestations ++ [attestation]
  if ∃ existing ∈ record.attestations, existing.status ≠ attestation.status then
    let state ← orFail .transition (transition record.state .dispute)
    Ask.put { record with state := state, attestations := attestations }
    throw .conflictingEvidence
  else Ask.put { record with attestations := attestations }

end Node

/-- Payer side: reserves liquidity and records the invoice of the counterparty. -/
def attachCounterpartyInvoice (now : Option ℕ) (id : SettlementId) (invoice : Bolt11Invoice) :
    NodeProgram Unit := do
  let record ← fetch id
  if quoteIsExpired now record then throw .quoteExpired
  else
    -- The whole sequence is checked before anything is reserved.
    let condition ← orFail .transition (conditionCreated record.state)
    let reservation ← orFail .adapter (← Ask.reserve record.fiatAmount)
    orFail .lightning (← Ask.acceptSettlementInvoice id record.btcAmount invoice)
    Ask.put { record with
      state := condition
      sourceReservation := some reservation
      counterpartyInvoice := some invoice }

/-- Payee side: an invoice for a settlement that a counterparty pays. -/
def createSettlementInvoice (id : SettlementId) (btcAmount : Millisatoshis) :
    NodeProgram Bolt11Invoice := do
  orFail .lightning (← Ask.createSettlementInvoice id btcAmount)

/-- Destination side: reserves the payout before the invoice is issued. -/
def prepareDestination (now : Option ℕ) (id : SettlementId) (fiatAmount : FiatAmount)
    (btcAmount : Millisatoshis) (counterparty beneficiary : String)
    (quoteExpiresAtUnix : Option ℕ) : NodeProgram Bolt11Invoice := do
  match ← Ask.get id with
  | some _ => throw (.transition ⟨.settlementConditionCreated, .quote⟩)
  | none =>
      if quoteExpiresAtUnix.any (hasReached now) then throw .quoteExpired
      else
        let begun ← orFail .transition (transition .created .quote)
        let state ← orFail .transition (conditionCreated begun)
        let reservation ← orFail .adapter (← Ask.reserve fiatAmount)
        let invoice ← createSettlementInvoice id btcAmount
        Ask.put {
          id := id
          state := state
          fiatAmount := fiatAmount
          btcAmount := btcAmount
          counterparty := counterparty
          beneficiary := beneficiary
          payoutIdempotencyKey := id.toText
          quoteExpiresAtUnix := quoteExpiresAtUnix
          quote := none
          sourceReservation := some reservation
          counterpartyInvoice := none
          attestations := [] }
        return invoice

def requestPayout (id : SettlementId) : NodeProgram PayoutOutcome := do
  let record ← fetch id
  let requested ← orFail .transition (transition record.state .requestPayout)
  match record.sourceReservation with
  | none => throw .missingReservation
  | some reservation =>
      match ← Ask.initiatePayout reservation record.beneficiary record.payoutIdempotencyKey with
      | .ok outcome =>
          let state ← orFail .transition (transition requested (.observePayout (some outcome)))
          Ask.put { record with state := state }
          return outcome
      | .error (.rejected reason) =>
          let state ← orFail .transition (transition requested (.observePayout (some .failed)))
          Ask.put { record with state := state }
          throw (.payoutRejected reason)
      | .error .timeout =>
          let state ← orFail .transition (transition requested (.observePayout none))
          Ask.put { record with state := state }
          throw .payoutUnknown
      | .error .reservationNotFound => throw .missingReservation

def markPayoutUnknown (id : SettlementId) : NodeProgram Unit := do
  let record ← fetch id
  let requested ← orFail .transition (transition record.state .requestPayout)
  let state ← orFail .transition (transition requested (.observePayout none))
  Ask.put { record with state := state }

/-- Asks the rail again for a settlement whose payout is unknown. -/
def reconcileUnknownPayout (id : SettlementId) : NodeProgram PayoutOutcome := do
  let record ← fetch id
  if record.state ≠ .payoutUnknown then throw (.notReconcilable record.state)
  else
    match ← orFail .adapter (← Ask.queryPayout record.payoutIdempotencyKey) with
    | none => throw .stillUnknown
    | some outcome =>
        let state ← orFail .transition (transition record.state (.reconcileUnknown outcome))
        Ask.put { record with state := state }
        return outcome

/-- Payer side: pays the accepted invoice. -/
def releaseSettlement (id : SettlementId) : NodeProgram PaymentPreimage := do
  let record ← fetch id
  let next ← orFail .transition (transition record.state .releaseSettlement)
  let preimage ← orFail .lightning (← Ask.release id)
  Ask.put { record with state := next }
  return preimage

def refundSettlement (id : SettlementId) : NodeProgram Unit := do
  let record ← fetch id
  let next ← orFail .transition (transition record.state .refund)
  orFail .lightning (← Ask.refund id)
  Ask.put { record with state := next }

/-- The settlements whose invoice the backend has to know. -/
def isReleasable : SettlementState → Bool
  | .settlementConditionCreated | .payoutRequested | .payoutUnknown | .payoutConfirmed => true
  | _ => false

def acceptStored : List SettlementRecord → NodeProgram Unit
  | [] => pure ()
  | record :: rest => do
      match record.counterpartyInvoice with
      | none => acceptStored rest
      | some invoice =>
          if isReleasable record.state then
            orFail .lightning
              (← Ask.acceptSettlementInvoice record.id record.btcAmount invoice)
            acceptStored rest
          else acceptStored rest

/-- Gives the backend the invoices of the stored settlements again. -/
def recover : NodeProgram Unit := do
  acceptStored (← Ask.listPending)

end Safrod.Legacy

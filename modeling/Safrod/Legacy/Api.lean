import Safrod.Legacy.Identifiers

/-!
# The routes of a node

A handler of the peer API calls its own node only. A handler of the provider's API also
posts to the peer; what the peer answers, if it answers at all, is for the surroundings to
say. The clock is an argument of the handlers that read it.
-/

set_option autoImplicit false

namespace Safrod.Legacy

namespace Api

/-! ## Requests and answers -/

structure CreateSettlementRequest where
  fiatAmount : FiatAmount
  destinationAmount : FiatAmount
  btcAmountMsat : Millisatoshis
  counterparty : String
  beneficiary : String
  quoteExpiresAtUnix : Option ℕ

structure SettlementResponse where
  settlementId : String
  state : SettlementState
  deriving DecidableEq

structure InvoiceRequest where
  settlementId : String
  btcAmountMsat : Millisatoshis

structure InvoiceResponse where
  bolt11 : String

structure PrepareRequest where
  settlementId : String
  destinationAmount : FiatAmount
  btcAmountMsat : Millisatoshis
  counterparty : String
  beneficiary : String
  quoteExpiresAtUnix : Option ℕ

structure PeerPayoutResponse where
  attestation : Option PayoutAttestation

/-- What the HTTP client makes of an answer. The body is missing where it does not parse. -/
structure HttpResponse (Body : Type) where
  status : ℕ
  body : Option Body

def HttpResponse.isSuccess {Body : Type} (response : HttpResponse Body) : Bool :=
  decide (200 ≤ response.status ∧ response.status < 300)

/-! ## Errors -/

inductive ApiMessage where
  | text (text : String)
  | node (error : NodeError)
  /-- A text, and the status of the peer. -/
  | peer (text : String) (status : ℕ)
  /-- A text, and what the HTTP client says. -/
  | http (text : String)
  | unexpectedPayoutState (current : SettlementState)

inductive ApiError where
  | response (status : ℕ) (message : ApiMessage)
  /-- A settlement the handler expects to be stored is not, or the backend panicked. -/
  | panicked

def badRequest (message : ApiMessage) : ApiError := .response 400 message

def notFound (message : ApiMessage) : ApiError := .response 404 message

def internalError (message : ApiMessage) : ApiError := .response 500 message

/-! ## Handlers -/

/-- A handler that calls its own node. -/
abbrev Handler : Type → Type := ExceptT ApiError (Program NodeCall NodeAnswer)

inductive ApiCall where
  | node (call : NodeCall)
  | peerPrepare (request : PrepareRequest)
  | peerPayout (id : String)
  | peerReconcile (id : String)

/-- A request that could not be sent has no answer. -/
abbrev ApiAnswer : ApiCall → Type
  | .node call => NodeAnswer call
  | .peerPrepare _ => Option (HttpResponse InvoiceResponse)
  | .peerPayout _ => Option (HttpResponse PeerPayoutResponse)
  | .peerReconcile _ => Option (HttpResponse PeerPayoutResponse)

/-- A handler that also posts to the peer. -/
abbrev PostingHandler : Type → Type := ExceptT ApiError (Program ApiCall ApiAnswer)

section Handlers

variable {Value : Type}

def onNode (handler : Handler Value) : PostingHandler Value :=
  ExceptT.mk (handler.run.embed .node fun _ answer => answer)

def post (call : ApiCall) : PostingHandler (ApiAnswer call) := ExceptT.lift (Program.call call)

/-- A panic of the backend unwinds through the handler. -/
def failure (respond : ApiMessage → ApiError) : NodeError → ApiError
  | .lightning .panicked => .panicked
  | error => respond (.node error)

/-- An operation of the node, its error in a response. -/
def operate (respond : ApiMessage → ApiError) (program : NodeProgram Value) : Handler Value :=
  ExceptT.mk (Except.mapError (failure respond) <$> program.run)

/-- An operation of the node, and how it ended. -/
def attempt (program : NodeProgram Value) : Handler (Except NodeError Value) :=
  ExceptT.lift program.run

def parseSettlementId {Call : Type} {Answer : Call → Type} (raw : String) :
    ExceptT ApiError (Program Call Answer) SettlementId :=
  match SettlementId.fromHex raw with
  | none => throw (badRequest (.text "settlement id is not valid hex"))
  | some id => pure id

end Handlers

def settlementState (id : SettlementId) : Handler (Option SettlementState) := do
  let record : Option SettlementRecord ← ExceptT.lift (Program.call (NodeCall.get id))
  return record.map (·.state)

/-- The state of a settlement that is stored. -/
def expectState (id : SettlementId) : Handler SettlementState := do
  match ← settlementState id with
  | none => throw .panicked
  | some state => return state

/-! ## The provider's API -/

/-- Releases what is confirmed and refunds what failed. -/
def conclude (unexpected : Option SettlementState → ApiError) (id : SettlementId) :
    Handler Unit := do
  match ← settlementState id with
  | some .payoutConfirmed => do
      let _ ← operate internalError (Legacy.releaseSettlement id)
      return ()
  | some .payoutFailed => operate internalError (Legacy.refundSettlement id)
  | other => throw (unexpected other)

section Provider

variable {secp : Secp} (node : Node secp)

/-- Applies the attestation of the peer, and settles as it says. -/
def settleOn (unexpected : Option SettlementState → ApiError) (raw : String)
    (id : SettlementId) (response : HttpResponse PeerPayoutResponse) :
    Handler SettlementResponse := do
  match response.body with
  | none => throw (internalError (.http "parsing peer attestation"))
  | some ⟨none⟩ => throw (internalError (.text "peer omitted payout attestation"))
  | some ⟨some attestation⟩ => do
      operate badRequest (node.applyPayoutAttestation attestation)
      conclude unexpected id
      return ⟨raw, ← expectState id⟩

def createSettlement (now attachedAt : Option ℕ) (id : SettlementId)
    (request : CreateSettlementRequest) : PostingHandler SettlementResponse := do
  let quoteExpiresAtUnix := request.quoteExpiresAtUnix <|> now.map (· + 300)
  let id ← onNode (operate internalError (beginSettlementWithQuoteExpiry id request.fiatAmount
    request.btcAmountMsat request.counterparty quoteExpiresAtUnix))
  match ← post (.peerPrepare {
      settlementId := id.toText
      destinationAmount := request.destinationAmount
      btcAmountMsat := request.btcAmountMsat
      counterparty := request.counterparty
      beneficiary := request.beneficiary
      quoteExpiresAtUnix := quoteExpiresAtUnix }) with
  | none => throw (internalError (.http "requesting invoice from peer"))
  | some response =>
      if response.isSuccess then
        match response.body with
        | none => throw (internalError (.http "parsing peer invoice response"))
        | some invoice => onNode do
            operate internalError (attachCounterpartyInvoice attachedAt id ⟨invoice.bolt11⟩)
            return ⟨id.toText, ← expectState id⟩
      else throw (internalError (.peer "peer rejected invoice request" response.status))

def settle (raw : String) : PostingHandler SettlementResponse := do
  let id ← parseSettlementId raw
  match ← post (.peerPayout id.toText) with
  | none => throw (internalError (.http "requesting peer payout"))
  | some response =>
      if response.isSuccess then
        if response.status = 202 then onNode do
          operate internalError (markPayoutUnknown id)
          return ⟨raw, ← expectState id⟩
        else
          onNode (settleOn node (fun
            | none => notFound (.text "unknown settlement")
            | some current => internalError (.unexpectedPayoutState current)) raw id response)
      else throw (internalError (.peer "peer payout failed" response.status))

/-- An answer that the payout is not known yet leaves the record as it is. -/
def reconcilePeerPayout (raw : String) : PostingHandler SettlementResponse := do
  let id ← parseSettlementId raw
  match ← post (.peerReconcile id.toText) with
  | none => throw (internalError (.http "reconciling peer payout"))
  | some response =>
      if response.status = 202 then return ⟨raw, .payoutUnknown⟩
      else if response.isSuccess then
        onNode (settleOn node
          (fun _ => internalError (.text "unexpected settlement state after reconciliation"))
          raw id response)
      else throw (internalError (.peer "peer reconciliation failed" response.status))

end Provider

def releaseSettlement (raw : String) : Handler SettlementResponse := do
  let id ← parseSettlementId raw
  let _ ← operate internalError (Legacy.releaseSettlement id)
  return ⟨raw, ← expectState id⟩

def refundSettlement (raw : String) : Handler SettlementResponse := do
  let id ← parseSettlementId raw
  operate internalError (Legacy.refundSettlement id)
  return ⟨raw, ← expectState id⟩

/-- The routes of the payer. -/
inductive Route where
  | createSettlement (now attachedAt : Option ℕ) (id : SettlementId)
      (request : CreateSettlementRequest)
  | settle (raw : String)
  | reconcilePeerPayout (raw : String)
  | releaseSettlement (raw : String)
  | refundSettlement (raw : String)

/-! ## The peer API -/

section Peer

variable {secp : Secp} (node : Node secp)

def createInvoice (request : InvoiceRequest) : Handler InvoiceResponse := do
  let id ← parseSettlementId request.settlementId
  let invoice ← operate internalError
    (Legacy.createSettlementInvoice id request.btcAmountMsat)
  return ⟨invoice.text⟩

def prepareDestination (now : Option ℕ) (request : PrepareRequest) : Handler InvoiceResponse := do
  let id ← parseSettlementId request.settlementId
  let counterparty := request.counterparty ++ ":" ++ request.beneficiary
  let invoice ← operate badRequest (Legacy.prepareDestination now id request.destinationAmount
    request.btcAmountMsat counterparty request.beneficiary request.quoteExpiresAtUnix)
  return ⟨invoice.text⟩

/-- The outcome of a payout, signed. -/
def attested (now : Option ℕ) (id : SettlementId) (outcome : PayoutOutcome) :
    Handler (ℕ × PeerPayoutResponse) :=
  match now with
  | none => throw (internalError (.text "second time provided was later than self"))
  | some seconds => return (200, ⟨some (node.signPayoutAttestation id outcome
      ("simulated-rail-" ++ id.toText) seconds)⟩)

/-- An operation that finds the outcome of a payout answers with it, with nothing where the
outcome is pending, and with an error where the operation fails. -/
def answerPayout (pending : NodeError) (program : SettlementId → NodeProgram PayoutOutcome)
    (now : Option ℕ) (raw : String) : Handler (ℕ × PeerPayoutResponse) := do
  let id ← parseSettlementId raw
  match ← attempt (program id) with
  | .ok outcome => attested node now id outcome
  | .error error =>
      if error = pending then return (202, ⟨none⟩) else throw (badRequest (.node error))

def peerPayout : Option ℕ → String → Handler (ℕ × PeerPayoutResponse) :=
  answerPayout node .payoutUnknown requestPayout

def peerReconcilePayout : Option ℕ → String → Handler (ℕ × PeerPayoutResponse) :=
  answerPayout node .stillUnknown reconcileUnknownPayout

def receiveAttestation (attestation : PayoutAttestation) : Handler Unit :=
  operate badRequest (node.recordPayoutAttestation attestation)

end Peer

inductive PeerRoute where
  | createInvoice (request : InvoiceRequest)
  | prepareDestination (now : Option ℕ) (request : PrepareRequest)
  | peerPayout (now : Option ℕ) (raw : String)
  | peerReconcilePayout (now : Option ℕ) (raw : String)
  | receiveAttestation (attestation : PayoutAttestation)

inductive PeerReply where
  | invoice (response : InvoiceResponse)
  | payout (status : ℕ) (response : PeerPayoutResponse)
  | received

end Api

namespace Node

open Api

variable {secp : Secp} (node : Node secp)

def serve : Route → PostingHandler SettlementResponse
  | .createSettlement now attachedAt id request => createSettlement now attachedAt id request
  | .settle raw => settle node raw
  | .reconcilePeerPayout raw => reconcilePeerPayout node raw
  | .releaseSettlement raw => onNode (Api.releaseSettlement raw)
  | .refundSettlement raw => onNode (Api.refundSettlement raw)

def servePeer : PeerRoute → Handler PeerReply
  | .createInvoice request => .invoice <$> createInvoice request
  | .prepareDestination now request => .invoice <$> Api.prepareDestination now request
  | .peerPayout now raw => (fun answer => .payout answer.1 answer.2) <$> peerPayout node now raw
  | .peerReconcilePayout now raw =>
      (fun answer => .payout answer.1 answer.2) <$> peerReconcilePayout node now raw
  | .receiveAttestation attestation =>
      (fun _ => .received) <$> receiveAttestation node attestation

end Node

end Safrod.Legacy

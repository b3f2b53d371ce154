import Safrod.Core.Network
import Safrod.Storage.Model

/-!
# The Lightning surface

The values that pass between the engine and the node, and `parseForNetwork`, the
check an invoice goes through before it is paid. The BOLT11 decoder is code of
another package: it is a parameter, and everything around it is the source's.
-/

set_option autoImplicit false

namespace Safrod

inductive LightningError where
  | invalidInvoice (detail : String)
  | networkMismatch (expected found : String)
  | invoiceExpired
  | amountRequired
  | duplicatePayment
  | noRoute
  | notRunning
  | node (detail : String)
  deriving DecidableEq

structure ParsedInvoice where
  /-- Hex-encoded 32-byte payment hash. -/
  paymentHash : String
  amountMsat : Option ℕ
  deriving DecidableEq

inductive NodePaymentStatus where
  | pending
  | succeeded
  | failed
  deriving DecidableEq, Repr

/-- The node's own record of a payment. -/
structure NodePayment where
  status : NodePaymentStatus
  preimage : Option String
  feeMsat : Option ℕ
  deriving DecidableEq

inductive NodeEvent where
  | paymentReceived (paymentHash : String) (amountMsat : ℕ)
  | paymentSuccessful (paymentHash : String) (preimage : Option String) (feeMsat : Option ℕ)
  | paymentFailed (paymentHash : Option String) (reason : String)
  | channelReady (channelId : String)
  | channelClosed (channelId reason : String)
  | other (kind : String)
  deriving DecidableEq

/-! ## Parsing an invoice -/

/-- What the decoder's package says of an invoice: its hash in hex, its amount, and at
which times it is expired. -/
structure Bolt11Invoice where
  paymentHash : String
  amountMilliSatoshis : Option ℕ
  isExpired : DateTime → Bool

def mapCoreError : CoreError → LightningError
  | .networkMismatch _ expected found => .networkMismatch expected found
  | other => .invalidInvoice other.toText

def parseForNetwork (decode : String → Except String Bolt11Invoice) (network : Network)
    (now : DateTime) (bolt11 : String) : Except LightningError ParsedInvoice := do
  let trimmed := trim bolt11
  (network.checkInvoicePrefix trimmed).mapError mapCoreError
  let invoice ← (decode trimmed).mapError .invalidInvoice
  if invoice.isExpired now then .error .invoiceExpired
  else return ⟨invoice.paymentHash, invoice.amountMilliSatoshis⟩

/-- An invoice that was accepted once is accepted again, with the same reading,
until it expires, and is refused as expired from then on. -/
theorem parseForNetwork_again {decode : String → Except String Bolt11Invoice} {network : Network}
    {earlier : DateTime} {bolt11 : String} {parsed : ParsedInvoice}
    (accepted : parseForNetwork decode network earlier bolt11 = .ok parsed) :
    ∃ invoice, decode (trim bolt11) = .ok invoice ∧ ∀ now,
      parseForNetwork decode network now bolt11 =
        if invoice.isExpired now then .error .invoiceExpired else .ok parsed := by
  obtain ⟨⟨⟩, checked, rest⟩ := Except.exists_of_bind_eq_ok accepted
  obtain ⟨invoice, decoded, rest⟩ := Except.exists_of_bind_eq_ok rest
  obtain ⟨-, rest⟩ := Except.not_and_of_ite_error rest
  cases rest
  refine ⟨invoice, Except.eq_ok_of_mapError_eq_ok decoded, ?_⟩
  intro now
  simp only [parseForNetwork]
  rw [checked, decoded]
  rfl

end Safrod

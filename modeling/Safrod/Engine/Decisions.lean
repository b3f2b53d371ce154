import Safrod.Api.Error
import Safrod.Storage.Invoices
import Safrod.Storage.Payments

/-!
# What the engine decides

The parts of the payment engine that read nothing but their arguments: how a send
request is prepared (`prepare`), how a refusal is labelled, what a comparison
with the node's record leads to (`reconcileDecision`), and what a node event
means for the payment it is applied to (`outcomeOf`).
-/

set_option autoImplicit false

namespace Safrod

/-- The code of other packages the engine calls: the check of an invoice, which
reads a clock, the digest, and the text of a JSON value. -/
structure Env where
  parseInvoice : DateTime → String → Except LightningError ParsedInvoice
  sha256 : List UInt8 → List UInt8
  toText : Value → String

/-- The environment of a running node: `parse_invoice` is `parse_for_network`. -/
def Env.ldk (decode : String → Except String Bolt11Invoice) (network : Network)
    (sha256 : List UInt8 → List UInt8) (toText : Value → String) : Env where
  parseInvoice := parseForNetwork decode network
  sha256 := sha256
  toText := toText

/-! ## Preparing a send -/

structure SendRequest where
  bolt11 : String
  amountMsat : Option ℕ
  metadata : Value

structure SendResult where
  payment : PaymentRecord
  created : Bool

/-- The amount to pay, of the invoice or of the request. -/
def chooseAmount (invoice given : Option ℕ) : Except ApiError ℕ :=
  match invoice, given with
  | some amount, some asked =>
      if amount ≠ asked then
        .error (.validation "amount_msat does not match the amount encoded in the invoice")
      else .ok amount
  | some amount, none => .ok amount
  | none, some asked => .ok asked
  | none, none => .error LightningError.amountRequired.toApiError

def checkRange (amountMsat : ℕ) : Except ApiError Unit :=
  if toSatsFloor amountMsat = 0 ∨ maxSats < toSatsFloor amountMsat then
    .error (.validation "amount must be between one satoshi and the bitcoin supply")
  else .ok ()

/-- The digest of the trimmed invoice, the amount and the metadata. -/
def fingerprint (env : Env) (bolt11 : String) (amountMsat : ℕ) (metadata : Value) : List UInt8 :=
  env.sha256 (bolt11.toUTF8.toList ++ toBeBytes amountMsat ++ (env.toText metadata).toUTF8.toList)

/-- A request that may be begun. -/
structure Prepared where
  bolt11 : String
  paymentHash : String
  amountMsat : ℕ
  /-- The amount for the node, when the invoice has none. -/
  amountForNode : Option ℕ
  requestHash : List UInt8
  metadata : Value

def prepare (env : Env) (now : DateTime) (request : SendRequest) : Except ApiError Prepared := do
  let bolt11 := trim request.bolt11
  let parsed ← (env.parseInvoice now bolt11).mapError LightningError.toApiError
  let amountMsat ← chooseAmount parsed.amountMsat request.amountMsat
  checkRange amountMsat
  return {
    bolt11 := bolt11
    paymentHash := parsed.paymentHash
    amountMsat := amountMsat
    amountForNode := if parsed.amountMsat.isNone then some amountMsat else none
    requestHash := fingerprint env bolt11 amountMsat request.metadata
    metadata := request.metadata }

def Prepared.newPayment (prepared : Prepared) (id projectId idempotencyKey : String) :
    NewPayment where
  id := id
  projectId := projectId
  idempotencyKey := idempotencyKey
  requestHash := prepared.requestHash
  bolt11 := prepared.bolt11
  paymentHash := prepared.paymentHash
  amountMsat := prepared.amountMsat
  metadata := prepared.metadata

/-- A prepared amount is positive and fits its column. -/
theorem prepare_amount {env : Env} {now : DateTime} {request : SendRequest} {prepared : Prepared}
    (done : prepare env now request = .ok prepared) :
    0 < prepared.amountMsat ∧ prepared.amountMsat ≤ i64Max := by
  obtain ⟨parsed, -, rest⟩ := Except.exists_of_bind_eq_ok done
  obtain ⟨amountMsat, -, rest⟩ := Except.exists_of_bind_eq_ok rest
  obtain ⟨⟨⟩, checked, rest⟩ := Except.exists_of_bind_eq_ok rest
  obtain ⟨range, -⟩ := Except.not_and_of_ite_error checked
  cases rest
  obtain ⟨nonzero, within⟩ := not_or.mp range
  refine ⟨?_, le_i64Max_of_toSatsFloor_le (Nat.not_lt.mp within)⟩
  refine Nat.pos_of_ne_zero fun zero => nonzero ?_
  rw [show amountMsat = 0 from zero]
  rfl

/-- What is prepared is the trimmed invoice, for the amount of the request when it
has one. -/
theorem prepare_target {env : Env} {now : DateTime} {request : SendRequest} {prepared : Prepared}
    (done : prepare env now request = .ok prepared) :
    prepared.bolt11 = trim request.bolt11 ∧
      ∀ amount, request.amountMsat = some amount → prepared.amountMsat = amount := by
  obtain ⟨parsed, -, rest⟩ := Except.exists_of_bind_eq_ok done
  obtain ⟨amountMsat, chosen, rest⟩ := Except.exists_of_bind_eq_ok rest
  obtain ⟨-, -, rest⟩ := Except.exists_of_bind_eq_ok rest
  cases rest
  refine ⟨rfl, fun amount given => ?_⟩
  rw [given] at chosen
  cases invoice : parsed.amountMsat with
  | none =>
      rw [invoice] at chosen
      exact (Except.ok.inj chosen).symm
  | some own =>
      rw [invoice] at chosen
      obtain ⟨same, chosen⟩ := Except.not_and_of_ite_error chosen
      cases chosen
      exact not_not.mp same

/-- A request that was prepared once is prepared to the same payment again, until
its invoice expires. -/
theorem prepare_again {decode : String → Except String Bolt11Invoice} {network : Network}
    {sha256 : List UInt8 → List UInt8} {toText : Value → String} {earlier : DateTime}
    {request : SendRequest} {prepared : Prepared}
    (done : prepare (.ldk decode network sha256 toText) earlier request = .ok prepared) :
    ∃ invoice, decode (trim (trim request.bolt11)) = .ok invoice ∧ ∀ now,
      prepare (.ldk decode network sha256 toText) now request =
        if invoice.isExpired now then .error LightningError.invoiceExpired.toApiError
        else .ok prepared := by
  obtain ⟨parsed, accepted, rest⟩ := Except.exists_of_bind_eq_ok done
  obtain ⟨invoice, decoded, again⟩ :=
    parseForNetwork_again (Except.eq_ok_of_mapError_eq_ok accepted)
  refine ⟨invoice, decoded, ?_⟩
  intro now
  have parse : (Env.ldk decode network sha256 toText).parseInvoice now (trim request.bolt11) =
      if invoice.isExpired now then .error .invoiceExpired else .ok parsed := again now
  by_cases expired : invoice.isExpired now
  · rw [if_pos expired] at parse ⊢
    simp only [prepare, parse]
    rfl
  · rw [if_neg expired] at parse ⊢
    rw [← rest]
    simp only [prepare, parse]
    rfl

/-- Two clocks prepare a request to one payment. -/
theorem prepare_unique {decode : String → Except String Bolt11Invoice} {network : Network}
    {sha256 : List UInt8 → List UInt8} {toText : Value → String} {earlier now : DateTime}
    {request : SendRequest} {first second : Prepared}
    (done : prepare (.ldk decode network sha256 toText) earlier request = .ok first)
    (again : prepare (.ldk decode network sha256 toText) now request = .ok second) :
    first = second := by
  obtain ⟨invoice, -, same⟩ := prepare_again done
  rw [same now] at again
  split at again
  · cases again
  · exact Except.ok.inj again

/-! ## A request on regtest -/

/-- An invoice of 5000 satoshis that stands for an hour. -/
def regtestBolt11 : String :=
  "lnbcrt5" ++
    ("0u1pj48ugqpp5qqqsyqcyq5rqwzqfqqqsyqcyq5rqwzqfqqqsyqcyq5rqwzqfqypqsp5zyg3zyg3zyg3zy" ++
      "g3zyg3zyg3zyg3zyg3zyg3zyg3zyg3zyg3zygsdqz0q9qrsgqcqpj47k72hhn9tytsck3ur50c7574pncw" ++
      "0dj5c60jgxthnjf3tjk6m9zprpcdc78kg8tghe0pfmntxya97j5dqp3xsdv5nhqagqsgh9dj5sp8u73v") ++
    "9"

abbrev regtestMade : DateTime := 1_700_000_000_000_000

def regtestInvoice : Bolt11Invoice where
  paymentHash := "0001020304050607080900010203040506070809000102030405060708090102"
  amountMilliSatoshis := some 5_000_000
  isExpired now := 3_600_000_000 < now - regtestMade

/-- The digest of the invoice, its amount and empty metadata. -/
def regtestDigest : List UInt8 :=
  [236, 189, 172, 47, 64, 103, 158, 72, 44, 90, 102, 212, 149, 140, 245, 179, 64, 52, 1, 233, 61,
    14, 139, 138, 93, 103, 185, 57, 135, 28, 110, 3]

def regtestDecode (text : String) : Except String Bolt11Invoice :=
  if text = regtestBolt11 then .ok regtestInvoice else .error "invalid invoice"

/-- The other packages, as far as this invoice and empty metadata go. -/
def regtest : Env :=
  .ldk regtestDecode .regtest (fun _ => regtestDigest) (fun _ => "\x7b\x7d")

def regtestRequest : SendRequest where
  bolt11 := regtestBolt11
  amountMsat := none
  metadata := .object []

def regtestPrepared : Prepared where
  bolt11 := regtestBolt11
  paymentHash := regtestInvoice.paymentHash
  amountMsat := 5_000_000
  amountForNode := none
  requestHash := regtestDigest
  metadata := .object []

theorem toList_between (middle : String) : ("lnbcrt5" ++ middle ++ "9").toList =
    'l' :: 'n' :: 'b' :: 'c' :: 'r' :: 't' :: '5' :: (middle.toList ++ ['9']) := by
  rw [String.toList_append, String.toList_append]
  rfl

theorem regtestBolt11_toList : ∃ middle, regtestBolt11.toList =
    'l' :: 'n' :: 'b' :: 'c' :: 'r' :: 't' :: '5' :: (middle ++ ['9']) :=
  ⟨_, toList_between _⟩

theorem trim_regtestBolt11 : trim regtestBolt11 = regtestBolt11 := by
  obtain ⟨middle, shape⟩ := regtestBolt11_toList
  exact trim_of_ends ('n' :: 'b' :: 'c' :: 'r' :: 't' :: '5' :: middle) shape rfl rfl

theorem checkInvoicePrefix_regtestBolt11 :
    Network.regtest.checkInvoicePrefix regtestBolt11 = .ok () := by
  obtain ⟨middle, shape⟩ := regtestBolt11_toList
  rw [Network.checkInvoicePrefix, trim_regtestBolt11, shape]
  rfl

theorem decode_regtest : regtestDecode (trim (trim regtestBolt11)) = .ok regtestInvoice := by
  rw [trim_regtestBolt11, trim_regtestBolt11, regtestDecode, if_pos rfl]

theorem parseInvoice_regtest (sha256 : List UInt8 → List UInt8) (toText : Value → String)
    (now : DateTime) :
    (Env.ldk regtestDecode .regtest sha256 toText).parseInvoice now regtestBolt11 =
      if regtestInvoice.isExpired now then .error .invoiceExpired
      else .ok ⟨regtestInvoice.paymentHash, some 5_000_000⟩ := by
  have decoded : regtestDecode regtestBolt11 = .ok regtestInvoice := if_pos rfl
  simp only [Env.ldk, parseForNetwork, trim_regtestBolt11, checkInvoicePrefix_regtestBolt11,
    decoded]
  rfl

/-- The request is prepared until the invoice expires. -/
theorem prepare_regtest (now : DateTime) :
    prepare regtest now regtestRequest =
      if regtestInvoice.isExpired now then .error LightningError.invoiceExpired.toApiError
      else .ok regtestPrepared := by
  have trimmed : trim regtestRequest.bolt11 = regtestBolt11 := trim_regtestBolt11
  simp only [prepare, trimmed]
  rw [regtest, parseInvoice_regtest]
  split <;> rfl

/-! ## Refusals -/

def failureLabel : LightningError → String
  | .noRoute => "no_route"
  | .duplicatePayment => "duplicate_payment"
  | .notRunning => "node_not_running"
  | _ => "node_rejected"

/-- What is recorded when the node refused to send. -/
def refusal (error : LightningError) : Resolution where
  failureReason := some (failureLabel error)

/-! ## Reconciliation -/

/-- Where a payment that is not final goes after a look at the node's own record,
if anywhere. A payment that was `pending` and that the node has no record of
becomes `unknown` rather than `failed`. -/
def reconcileDecision (current : PaymentStatus) (nodeView : Option NodePayment) :
    Option (PaymentStatus × Resolution) :=
  match nodeView with
  | some p =>
      match p.status with
      | .succeeded => some (.succeeded, { feeMsat := p.feeMsat, preimage := p.preimage })
      | .failed => some (.failed, { failureReason := some "reported_failed_by_node" })
      | .pending => none
  | none =>
      match current with
      | .created => some (.failed, { failureReason := some "never_dispatched" })
      | .unknown => none
      | _ => some (.unknown, {})

/-- A record that leads to a final status has that status itself. -/
theorem reconcileDecision_final {current next : PaymentStatus} {nodeView : NodePayment}
    {resolution : Resolution}
    (decided : reconcileDecision current (some nodeView) = some (next, resolution)) :
    (next = .succeeded ∧ nodeView.status = .succeeded) ∨
      (next = .failed ∧ nodeView.status = .failed) := by
  simp only [reconcileDecision] at decided
  cases status : nodeView.status with
  | pending =>
      rw [status] at decided
      cases decided
  | succeeded =>
      rw [status] at decided
      cases decided
      exact .inl ⟨rfl, rfl⟩
  | failed =>
      rw [status] at decided
      cases decided
      exact .inr ⟨rfl, rfl⟩

/-- A payment succeeds by a record that succeeded. -/
theorem reconcileDecision_succeeded {current : PaymentStatus} {nodeView : Option NodePayment}
    {resolution : Resolution}
    (decided : reconcileDecision current nodeView = some (.succeeded, resolution)) :
    ∃ payment, nodeView = some payment ∧ payment.status = .succeeded := by
  cases nodeView with
  | none => cases current <;> cases decided
  | some payment =>
      rcases reconcileDecision_final decided with ⟨-, status⟩ | ⟨failed, -⟩
      · exact ⟨payment, rfl, status⟩
      · cases failed

/-- `created` cannot move straight to `unknown` or `succeeded`: it passes through
`pending`. -/
def passesPending (current next : PaymentStatus) : Bool :=
  current = .created && next ≠ .failed

/-! ## Node events -/

inductive EventError where
  /-- Retrying will not help: the event is acknowledged and logged. -/
  | permanent (reason : String)
  /-- A database or infrastructure failure: the same event is retried. -/
  | transient (reason : String)
  deriving DecidableEq

/-- `Display for StorageError`. -/
def StorageError.toText : StorageError → String
  | notFound => "not found"
  | conflict => "already exists"
  | idempotencyMismatch => "idempotency key was already used with different parameters"
  | illegalTransition source target =>
      "illegal state transition " ++ source ++ " -> " ++ target
  | insufficientBalance => "insufficient simulated balance"
  | amountOutOfRange => "amount out of range"
  | database detail => "database error: " ++ detail

def classify : StorageError → EventError
  | .notFound => .permanent StorageError.notFound.toText
  | .illegalTransition source target =>
      .permanent (StorageError.illegalTransition source target).toText
  | other => .transient other.toText

/-- The result of a handler that ends with a storage call. -/
def eventResult {α : Type} : Except StorageError α → Except EventError Unit
  | .ok _ => .ok ()
  | .error error => .error (classify error)

/-- The pump acknowledges after `Ok` and after a permanent error. -/
def acknowledges : Except EventError Unit → Bool
  | .ok _ => true
  | .error (.permanent _) => true
  | .error (.transient _) => false

/-- `recv:{payment_hash}`. -/
def receivedKey (paymentHash : String) : String := "recv:" ++ paymentHash

/-- What an outcome event means for the payment it is applied to. -/
structure EventOutcome where
  paymentHash : String
  /-- The dedupe key is this followed by the identifier of the payment. -/
  keyPrefix : String
  next : PaymentStatus
  resolution : Resolution

/-- The events that resolve a payment. A failure before an invoice was resolved
has no hash, and is only logged. -/
def outcomeOf : NodeEvent → Option EventOutcome
  | .paymentSuccessful paymentHash preimage feeMsat => some {
      paymentHash := paymentHash
      keyPrefix := "sent_ok:"
      next := .succeeded
      resolution := { feeMsat := feeMsat, preimage := preimage } }
  | .paymentFailed (some paymentHash) reason => some {
      paymentHash := paymentHash
      keyPrefix := "sent_fail:"
      next := .failed
      resolution := { failureReason := some reason } }
  | _ => none

def EventOutcome.dedupeKey (outcome : EventOutcome) (paymentId : String) : String :=
  outcome.keyPrefix ++ paymentId

theorem outcomeOf_cases {event : NodeEvent} {outcome : EventOutcome}
    (resolves : outcomeOf event = some outcome) :
    (outcome.next = .succeeded ∧ outcome.keyPrefix = "sent_ok:") ∨
      (outcome.next = .failed ∧ outcome.keyPrefix = "sent_fail:") := by
  cases event with
  | paymentSuccessful paymentHash preimage feeMsat =>
      cases resolves
      exact .inl ⟨rfl, rfl⟩
  | paymentFailed paymentHash reason =>
      cases paymentHash with
      | none => cases resolves
      | some paymentHash =>
          cases resolves
          exact .inr ⟨rfl, rfl⟩
  | paymentReceived paymentHash amountMsat => cases resolves
  | channelReady channelId => cases resolves
  | channelClosed channelId reason => cases resolves
  | other kind => cases resolves

theorem outcomeOf_final {event : NodeEvent} {outcome : EventOutcome}
    (resolves : outcomeOf event = some outcome) : outcome.next.isFinal = true := by
  rcases outcomeOf_cases resolves with ⟨next, -⟩ | ⟨next, -⟩
  · rw [next]
    rfl
  · rw [next]
    rfl

/-! ## Dedupe keys -/

theorem receivedKey_inj {first second : String} (same : receivedKey first = receivedKey second) :
    first = second := by
  have chars := congrArg String.toList same
  rw [receivedKey, receivedKey, String.toList_append, String.toList_append] at chars
  exact String.toList_inj.mp (List.append_cancel_left chars)

/-- The keys of received payments and of outcomes are apart. -/
theorem receivedKey_ne_dedupeKey {event : NodeEvent} {outcome : EventOutcome}
    (resolves : outcomeOf event = some outcome) (paymentHash paymentId : String) :
    receivedKey paymentHash ≠ outcome.dedupeKey paymentId := by
  intro same
  have chars := congrArg (fun text => text.toList.head?) same
  rcases outcomeOf_cases resolves with ⟨-, key⟩ | ⟨-, key⟩
  · simp [receivedKey, EventOutcome.dedupeKey, key, String.toList_append] at chars
  · simp [receivedKey, EventOutcome.dedupeKey, key, String.toList_append] at chars

/-- The key of an outcome names the payment. -/
theorem dedupeKey_inj {firstEvent secondEvent : NodeEvent} {first second : EventOutcome}
    (firstResolves : outcomeOf firstEvent = some first)
    (secondResolves : outcomeOf secondEvent = some second) {firstId secondId : String}
    (same : first.dedupeKey firstId = second.dedupeKey secondId) : firstId = secondId := by
  have chars := congrArg String.toList same
  rw [EventOutcome.dedupeKey, EventOutcome.dedupeKey, String.toList_append,
    String.toList_append] at chars
  rcases outcomeOf_cases firstResolves with ⟨-, firstKey⟩ | ⟨-, firstKey⟩ <;>
    rcases outcomeOf_cases secondResolves with ⟨-, secondKey⟩ | ⟨-, secondKey⟩ <;>
    rw [firstKey, secondKey] at chars
  · exact String.toList_inj.mp (List.append_cancel_left chars)
  · simp at chars
  · simp at chars
  · exact String.toList_inj.mp (List.append_cancel_left chars)

end Safrod

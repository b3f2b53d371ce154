import Mathlib.Logic.Function.Basic
import Safrod.Api.Error
import Safrod.Storage.Operations

/-!
# The invoice route

Requests that create invoices, in progress at once. A request with an
`Idempotency-Key` looks for an invoice under the key, asks the node for a new one when
there is none, and stores it; when another request was faster, the unique index
refuses the row and the request reads the invoice it lost to.

The node's answer and the instant of a transaction are part of the action. What the
payment pump and the expiry sweep do to the table of invoices happens between the steps.
The log records how the requests were answered, newest first.
-/

set_option autoImplicit false

namespace Safrod

open Table

def maxInvoiceExpirySecs : ℕ := 7 * 24 * 3600

def maxDescriptionBytes : ℕ := 639

/-- What the route uses of other packages: how a JSON value is printed, and
`timestamp_opt`, which has no instant for a second far from now. -/
structure InvoiceEnv where
  toText : Value → String
  timestampOpt : ℤ → Option DateTime

/-! ## A request -/

structure InvoiceRequest where
  amountMsat : Option ℕ
  amountSat : Option ℕ
  description : String
  expirySecs : Option ℕ
  metadata : Option Value

/-- What a request asks for, once it is checked. -/
structure InvoiceParams where
  amountMsat : ℕ
  description : String
  expirySecs : ℕ
  metadata : Value

/-- `Satoshis::from_request`. -/
def satoshisFromRequest (sats : ℕ) : Except CoreError ℕ :=
  if sats = 0 then .error (.invalidAmount "amount must be greater than zero")
  else if maxSats < sats then .error (.invalidAmount "amount exceeds the bitcoin supply")
  else .ok sats

def InvoiceRequest.invoiceAmount (request : InvoiceRequest) : Except ApiError ℕ :=
  match request.amountMsat, request.amountSat with
  | some _, some _ => .error (.validation "provide either amount_msat or amount_sat, not both")
  | none, none => .error (.validation "amount_msat or amount_sat is required")
  | none, some sat =>
      match satoshisFromRequest sat with
      | .error error => .error (.validation error.toText)
      | .ok sats =>
          match toMsat sats with
          | none => .error (.validation "amount is out of range")
          | some msat => .ok msat
  | some msat, none =>
      if msat = 0 ∨ maxSats < toSatsFloor msat then
        .error (.validation "amount_msat is out of range")
      else .ok msat

def checkMetadata (env : InvoiceEnv) : Option Value → Except ApiError Value
  | none => .ok (.object [])
  | some (.object fields) =>
      if (env.toText (.object fields)).utf8ByteSize ≤ 4096 then .ok (.object fields)
      else .error (.validation "metadata must be an object under 4 KiB")
  | some _ => .error (.validation "metadata must be an object under 4 KiB")

def InvoiceRequest.check (env : InvoiceEnv) (request : InvoiceRequest) :
    Except ApiError InvoiceParams := do
  let amountMsat ← request.invoiceAmount
  if maxDescriptionBytes < request.description.utf8ByteSize then
    .error (.validation "description is too long")
  else
    let expirySecs := request.expirySecs.getD 3600
    if expirySecs = 0 ∨ maxInvoiceExpirySecs < expirySecs then
      .error (.validation "expiry_secs must be between 1 and 604800")
    else
      let metadata ← checkMetadata env request.metadata
      return ⟨amountMsat, request.description, expirySecs, metadata⟩

/-- The characters `HeaderValue::to_str` lets through. -/
def isVisibleAscii (c : Char) : Bool := (0x20 ≤ c.toNat && c.toNat < 0x7F) || c.toNat = 0x9

/-- The key in the header of a request. -/
def idempotencyKey (header : Option String) (required : Bool) : Except ApiError (Option String) :=
  match header with
  | none =>
      if required then
        .error (.badRequest "idempotency_key_required" "an Idempotency-Key header is required")
      else .ok none
  | some value =>
      if value.toList.all isVisibleAscii then
        let key := trim value
        if key = "" ∨ 255 < key.utf8ByteSize then
          .error (.badRequest "invalid_idempotency_key"
            "Idempotency-Key must be 1 to 255 characters")
        else .ok (some key)
      else .error (.badRequest "invalid_idempotency_key" "Idempotency-Key must be ascii")

/-! ## The steps of a request -/

/-- `where project_id = $1 and idempotency_key = $2`. -/
def Db.findInvoiceByIdempotencyKey (db : Db) (projectId key : String) : Option InvoiceRecord :=
  (db.invoices.find? fun row => row.projectId = projectId ∧ row.idempotencyKey = some key).map
    (·.toInvoiceRecord)

/-- What the node returns of an invoice it made. -/
structure CreatedInvoice where
  bolt11 : String
  paymentHash : String
  expiresAtUnix : ℕ

/-- A request that passed its checks. -/
structure InvoiceCall where
  projectId : String
  idempotencyKey : Option String
  asked : InvoiceParams

def InvoiceCall.newInvoice (call : InvoiceCall) (id : String) (created : CreatedInvoice)
    (expiresAt : DateTime) : NewInvoice where
  id := id
  projectId := call.projectId
  idempotencyKey := call.idempotencyKey
  amountMsat := call.asked.amountMsat
  description := call.asked.description
  bolt11 := created.bolt11
  paymentHash := created.paymentHash
  expiresAt := expiresAt
  metadata := call.asked.metadata

/-- Where a request stands. -/
inductive InvoicePhase where
  | find
  | callNode
  | store (created : CreatedInvoice) (expiresAt : DateTime)
  /-- The unique index refused the row. -/
  | recover

inductive InvoiceTask where
  | idle
  | running (call : InvoiceCall) (phase : InvoicePhase)

structure InvoiceAnswer where
  invoice : InvoiceRecord
  created : Bool

inductive InvoiceAction where
  | read
  | node (answer : Except LightningError CreatedInvoice)
  | insert (now : DateTime) (id : String)

/-- What a step leaves: the task where it goes on, or its answer. -/
structure InvoiceOutcome where
  db : Db
  next : InvoicePhase ⊕ Except ApiError InvoiceAnswer

def InvoiceCall.act (env : InvoiceEnv) (db : Db) (call : InvoiceCall) :
    InvoicePhase → InvoiceAction → Option InvoiceOutcome
  | .find, .read =>
      match call.idempotencyKey with
      | none => some ⟨db, .inl .callNode⟩
      | some key =>
          match db.findInvoiceByIdempotencyKey call.projectId key with
          | none => some ⟨db, .inl .callNode⟩
          | some existing =>
              if asU64 existing.amountMsat ≠ call.asked.amountMsat ∨
                  existing.description ≠ call.asked.description then
                some ⟨db, .inr (.error StorageError.idempotencyMismatch.toApiError)⟩
              else some ⟨db, .inr (.ok ⟨existing, false⟩)⟩
  | .callNode, .node (.error error) => some ⟨db, .inr (.error error.toApiError)⟩
  | .callNode, .node (.ok created) =>
      match env.timestampOpt (asI64 created.expiresAtUnix) with
      | none => some ⟨db, .inr (.error .internal)⟩
      | some expiresAt => some ⟨db, .inl (.store created expiresAt)⟩
  | .store created expiresAt, .insert now id =>
      match Db.insertInvoice now (call.newInvoice id created expiresAt) db with
      | (.ok invoice, after) => some ⟨after, .inr (.ok ⟨invoice, true⟩)⟩
      | (.error .conflict, after) =>
          if call.idempotencyKey.isSome then some ⟨after, .inl .recover⟩
          else some ⟨after, .inr (.error StorageError.conflict.toApiError)⟩
      | (.error error, after) => some ⟨after, .inr (.error error.toApiError)⟩
  | .recover, .read =>
      match db.findInvoiceByIdempotencyKey call.projectId (call.idempotencyKey.getD "") with
      | none => some ⟨db, .inr (.error .internal)⟩
      | some existing => some ⟨db, .inr (.ok ⟨existing, false⟩)⟩
  | _, _ => none

/-! ## The service -/

/-- A request and its answer, and what was stored under its key when it was answered. -/
structure InvoiceReply where
  call : InvoiceCall
  stored : Option InvoiceRecord
  answer : Except ApiError InvoiceAnswer

structure InvoiceService where
  db : Db := {}
  tasks : ℕ → InvoiceTask := fun _ => .idle
  log : List InvoiceReply := []

inductive InvoiceServiceAction where
  /-- A request of a project, with its header. -/
  | request (slot : ℕ) (projectId : String) (header : Option String) (request : InvoiceRequest)
  | act (slot : ℕ) (action : InvoiceAction)
  /-- The client went away, or the process did. -/
  | cancel (slot : ℕ)
  | markInvoicePaid (now : DateTime) (dedupeKey paymentHash : String) (amountReceivedMsat : ℕ)
  | expireInvoices (now : DateTime)

namespace InvoiceService

/-- What is stored under the key of a request. -/
def stored (db : Db) (call : InvoiceCall) : Option InvoiceRecord :=
  call.idempotencyKey.bind (db.findInvoiceByIdempotencyKey call.projectId)

/-- The service after a step of a request. -/
def put (service : InvoiceService) (slot : ℕ) (call : InvoiceCall) (outcome : InvoiceOutcome) :
    InvoiceService :=
  match outcome.next with
  | .inl phase =>
      { service with
        db := outcome.db
        tasks := Function.update service.tasks slot (.running call phase) }
  | .inr answer =>
      { db := outcome.db
        tasks := Function.update service.tasks slot .idle
        log := ⟨call, stored service.db call, answer⟩ :: service.log }

/-- A request that fails its checks is answered at once, and asked for nothing. -/
def accept (env : InvoiceEnv) (service : InvoiceService) (slot : ℕ) (projectId : String)
    (header : Option String) (request : InvoiceRequest) : InvoiceService :=
  match request.check env, Safrod.idempotencyKey header false with
  | .ok asked, .ok key =>
      { service with
        tasks := Function.update service.tasks slot (.running ⟨projectId, key, asked⟩ .find) }
  | _, _ => service

def step (env : InvoiceEnv) (service : InvoiceService) :
    InvoiceServiceAction → Option InvoiceService
  | .request slot projectId header request =>
      match service.tasks slot with
      | .idle => some (service.accept env slot projectId header request)
      | .running _ _ => none
  | .act slot action =>
      match service.tasks slot with
      | .idle => none
      | .running call phase =>
          (call.act env service.db phase action).map fun outcome => service.put slot call outcome
  | .cancel slot => some { service with tasks := Function.update service.tasks slot .idle }
  | .markInvoicePaid now dedupeKey paymentHash amount =>
      some { service with
        db := (Db.markInvoicePaid now dedupeKey paymentHash amount service.db).2 }
  | .expireInvoices now => some { service with db := (Db.expireInvoices now service.db).2 }

end InvoiceService

/-- Runs of the route on a database that starts empty. -/
def invoicing (env : InvoiceEnv) : Machine InvoiceService InvoiceServiceAction where
  initial service := service = {}
  step := InvoiceService.step env

end Safrod

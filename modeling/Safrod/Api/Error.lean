import Safrod.Lightning.Backend

/-!
# Client-facing errors

The status, the code and the text of an answer that reports an error. Internal
detail goes to the log, never into the body.
-/

set_option autoImplicit false

namespace Safrod

structure ApiError where
  status : ℕ
  code : String
  message : String
  deriving DecidableEq

namespace ApiError

def validation (message : String) : ApiError := ⟨422, "validation_error", message⟩

def badRequest (code message : String) : ApiError := ⟨400, code, message⟩

def notFound (what : String) : ApiError := ⟨404, "not_found", what ++ " not found"⟩

def conflict (code message : String) : ApiError := ⟨409, code, message⟩

def unavailable (message : String) : ApiError := ⟨503, "service_unavailable", message⟩

def internal : ApiError :=
  ⟨500, "internal_error", "internal error; quote the request id when reporting it"⟩

end ApiError

/-- `From<StorageError> for ApiError`. -/
def StorageError.toApiError : StorageError → ApiError
  | notFound => .notFound "resource"
  | conflict => .conflict "conflict" "resource already exists"
  | idempotencyMismatch => .conflict "idempotency_key_reused"
      "this Idempotency-Key was already used with different parameters"
  | illegalTransition source target => .conflict "invalid_state"
      ("cannot move from " ++ source ++ " to " ++ target)
  | insufficientBalance => ⟨422, "insufficient_simulated_balance",
      "the simulated balance is too low for this payout"⟩
  | amountOutOfRange => .validation "amount is out of range"
  | database _ => .internal

/-- `From<LightningError> for ApiError`. -/
def LightningError.toApiError : LightningError → ApiError
  | invalidInvoice _ => ⟨422, "invalid_invoice", "the invoice could not be parsed"⟩
  | networkMismatch expected found => ⟨422, "network_mismatch",
      "invoice is for " ++ found ++ " but this node runs on " ++ expected⟩
  | invoiceExpired => ⟨422, "invoice_expired", "the invoice has expired"⟩
  | amountRequired => ⟨422, "amount_required", "the invoice has no amount; supply amount_msat"⟩
  | duplicatePayment => .conflict "duplicate_payment"
      "this invoice is already being paid or was already paid"
  | noRoute => ⟨422, "no_route", "insufficient outbound liquidity or no route to the destination"⟩
  | notRunning => .unavailable "the lightning node is not running"
  | node _ => .unavailable "the lightning node reported an error"

/-- Only a reused key is reported as one. -/
theorem StorageError.toApiError_eq_reused {error : StorageError} :
    error.toApiError = StorageError.idempotencyMismatch.toApiError ↔
      error = .idempotencyMismatch := by
  cases error <;> simp [StorageError.toApiError, ApiError.notFound, ApiError.conflict,
    ApiError.validation, ApiError.internal]

end Safrod

import Mathlib.Logic.Basic

/-!
# Payment state machines

The statuses of invoices, payments, deliveries, quotes and payouts, and the
moves `can_transition_to` allows. A status column holds one of the listed texts
by a check constraint of the schema, so a stored status is a value of its
enumeration and parsing it back never fails.
-/

set_option autoImplicit false

namespace Safrod

/-! ## Invoices -/

inductive InvoiceStatus where
  | open_
  | paid
  | expired
  deriving DecidableEq, Repr

namespace InvoiceStatus

def asStr : InvoiceStatus → String
  | open_ => "open"
  | paid => "paid"
  | expired => "expired"

def isFinal : InvoiceStatus → Bool
  | open_ => false
  | paid | expired => true

def canTransitionTo : InvoiceStatus → InvoiceStatus → Bool
  | open_, paid => true
  | open_, expired => true
  | _, _ => false

/-- An invoice only leaves `open`, and for a final status. -/
theorem canTransitionTo_iff {status next : InvoiceStatus} :
    status.canTransitionTo next = true ↔ status = open_ ∧ next.isFinal = true := by
  cases status <;> cases next <;> decide

end InvoiceStatus

/-! ## Payments -/

inductive PaymentStatus where
  | created
  | pending
  | succeeded
  | failed
  | unknown
  deriving DecidableEq, Repr

namespace PaymentStatus

def asStr : PaymentStatus → String
  | created => "created"
  | pending => "pending"
  | succeeded => "succeeded"
  | failed => "failed"
  | unknown => "unknown"

def isFinal : PaymentStatus → Bool
  | succeeded | failed => true
  | created | pending | unknown => false

/-- `unknown` is an outcome that could not be determined. It is deliberately not
a failure, and only a definite answer of the node resolves it. -/
def canTransitionTo : PaymentStatus → PaymentStatus → Bool
  | created, pending => true
  | created, failed => true
  | pending, succeeded => true
  | pending, failed => true
  | pending, unknown => true
  | unknown, succeeded => true
  | unknown, failed => true
  | _, _ => false

theorem not_canTransitionTo_of_isFinal {status : PaymentStatus} (final : status.isFinal = true)
    (next : PaymentStatus) : status.canTransitionTo next = false := by
  cases status <;> cases next <;> first | rfl | cases final

theorem not_canTransitionTo_self (status : PaymentStatus) :
    status.canTransitionTo status = false := by
  cases status <;> rfl

theorem not_canTransitionTo_created (status : PaymentStatus) :
    status.canTransitionTo created = false := by
  cases status <;> rfl

/-- Only a created payment becomes pending. -/
theorem eq_created_of_canTransitionTo_pending {status : PaymentStatus}
    (legal : status.canTransitionTo pending = true) : status = created := by
  cases status <;> first | rfl | cases legal

theorem eq_pending_of_canTransitionTo_unknown {status : PaymentStatus}
    (legal : status.canTransitionTo unknown = true) : status = pending := by
  cases status <;> first | rfl | cases legal

/-- A payment succeeds only after it was pending. -/
theorem canTransitionTo_succeeded_iff {status : PaymentStatus} :
    status.canTransitionTo succeeded = true ↔ status = pending ∨ status = unknown := by
  cases status <;> decide

/-- Every payment that is not final may fail. -/
theorem isFinal_eq_false_iff {status : PaymentStatus} :
    status.isFinal = false ↔ status = created ∨ status = pending ∨ status = unknown := by
  cases status <;> decide

theorem canTransitionTo_failed_iff {status : PaymentStatus} :
    status.canTransitionTo failed = true ↔ status.isFinal = false := by
  cases status <;> decide

end PaymentStatus

/-! ## On-chain transactions, deliveries, quotes -/

inductive OnchainStatus where
  | awaiting
  | unconfirmed
  | confirming
  | confirmed
  deriving DecidableEq, Repr

namespace OnchainStatus

def asStr : OnchainStatus → String
  | awaiting => "awaiting"
  | unconfirmed => "unconfirmed"
  | confirming => "confirming"
  | confirmed => "confirmed"

def fromConfirmations (confirmations required : Nat) : OnchainStatus :=
  if confirmations = 0 then unconfirmed
  else if confirmations < required then confirming
  else confirmed

/-- How far a deposit has come. -/
def rank : OnchainStatus → Nat
  | awaiting => 0
  | unconfirmed => 1
  | confirming => 2
  | confirmed => 3

theorem fromConfirmations_eq_confirmed {confirmations required : Nat} (positive : 0 < required) :
    fromConfirmations confirmations required = confirmed ↔ required ≤ confirmations := by
  unfold fromConfirmations
  split
  · rename_i none_
    simp only [reduceCtorEq, false_iff]
    omega
  · split
    · rename_i few
      simp only [reduceCtorEq, false_iff]
      omega
    · rename_i enough
      exact iff_of_true rfl (Nat.not_lt.mp enough)

/-- More confirmations never bring a deposit back. -/
theorem rank_fromConfirmations_mono {fewer more required : Nat} (grows : fewer ≤ more) :
    (fromConfirmations fewer required).rank ≤ (fromConfirmations more required).rank := by
  unfold fromConfirmations
  by_cases none_ : fewer = 0
  · rw [if_pos none_]
    split
    · exact Nat.le_refl _
    · split <;> decide
  · have some_ : more ≠ 0 := by omega
    rw [if_neg none_, if_neg some_]
    by_cases few : fewer < required
    · rw [if_pos few]
      split <;> decide
    · have enough : ¬ more < required := by omega
      simp only [if_neg few, if_neg enough, Nat.le_refl]

end OnchainStatus

inductive DeliveryStatus where
  | pending
  | delivered
  | failed
  deriving DecidableEq, Repr

def DeliveryStatus.asStr : DeliveryStatus → String
  | pending => "pending"
  | delivered => "delivered"
  | failed => "failed"

inductive QuoteStatus where
  | open_
  | used
  | expired
  deriving DecidableEq, Repr

def QuoteStatus.asStr : QuoteStatus → String
  | open_ => "open"
  | used => "used"
  | expired => "expired"

/-! ## Payouts -/

inductive PayoutStatus where
  | reserved
  | pending
  | succeeded
  | failed
  | unknown
  deriving DecidableEq, Repr

namespace PayoutStatus

def asStr : PayoutStatus → String
  | reserved => "reserved"
  | pending => "pending"
  | succeeded => "succeeded"
  | failed => "failed"
  | unknown => "unknown"

def canTransitionTo : PayoutStatus → PayoutStatus → Bool
  | reserved, pending => true
  | pending, succeeded => true
  | pending, failed => true
  | pending, unknown => true
  | unknown, succeeded => true
  | unknown, failed => true
  | _, _ => false

theorem asStr_injective {status other : PayoutStatus} (same : status.asStr = other.asStr) :
    status = other := by
  revert same
  cases status <;> cases other <;> decide

theorem not_canTransitionTo_self (status : PayoutStatus) :
    status.canTransitionTo status = false := by
  cases status <;> rfl

/-- No payout moves again once it failed. -/
theorem not_canTransitionTo_of_failed (next : PayoutStatus) :
    failed.canTransitionTo next = false := by
  cases next <;> rfl

/-- A payout that has left `reserved` comes back to neither `reserved` nor `pending`. -/
theorem settles_of_canTransitionTo {status next : PayoutStatus}
    (legal : status.canTransitionTo next = true) (left : status ≠ reserved) :
    next ≠ reserved ∧ next ≠ pending := by
  revert legal left
  cases status <;> cases next <;> decide

/-- The number of moves a payout can still make. Every move lowers it, so no
status is entered twice. -/
def remaining : PayoutStatus → Nat
  | reserved => 3
  | pending => 2
  | unknown => 1
  | succeeded | failed => 0

theorem remaining_lt {status next : PayoutStatus} (legal : status.canTransitionTo next = true) :
    next.remaining < status.remaining := by
  cases status <;> cases next <;> first | decide | cases legal

end PayoutStatus

end Safrod

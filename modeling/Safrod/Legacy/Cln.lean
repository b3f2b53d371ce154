import Safrod.Legacy.World

/-!
# The Core Lightning backend

The invoices a payer has accepted are kept in memory until they are paid or discarded. The
daemon behind the socket and the parser of invoices are not of this repository: a class
answers for them, the parser as a function of the text.
-/

set_option autoImplicit false

namespace Safrod.Legacy

inductive RpcRequest where
  | invoice (amountMsat : Millisatoshis) (label description : String)
  | pay (bolt11 : String)
  deriving DecidableEq

/-- The text fields of the result of a call. -/
structure RpcResult where
  field : String → Option String

/-- The Lightning daemon, and the amount a parsed invoice fixes. -/
class Lightningd (Rpc : Type) where
  call : RpcRequest → Rpc → Except String RpcResult × Rpc
  parse : String → Except String (Option Millisatoshis)

/-! ## Preimages in hex -/

def hexValue (digit : Char) : Option ℕ :=
  if '0' ≤ digit ∧ digit ≤ '9' then some (digit.toNat - 48)
  else if 'a' ≤ digit ∧ digit ≤ 'f' then some (digit.toNat - 87)
  else if 'A' ≤ digit ∧ digit ≤ 'F' then some (digit.toNat - 55)
  else none

/-- `u8::from_str_radix` of two characters, which takes a plus sign. -/
def hexPair (high low : Char) : Option UInt8 :=
  match hexValue high, hexValue low with
  | some high, some low => some (UInt8.ofNat (16 * high + low))
  | none, some low => if high = '+' then some (UInt8.ofNat low) else none
  | _, none => none

/-- How the decoder ends. -/
inductive HexDecoded where
  | bytes (bytes : List UInt8)
  | malformed
  /-- A slice cut a character. -/
  | panicked
  deriving DecidableEq

def HexDecoded.cons (byte : UInt8) : HexDecoded → HexDecoded
  | bytes rest => bytes (byte :: rest)
  | other => other

/-- The text is cut every two bytes. A character of two bytes is a slice that is no number. -/
def hexSlices : List Char → HexDecoded
  | [] => .bytes []
  | [high] => if high.utf8Size = 2 then .malformed else .panicked
  | high :: low :: rest =>
      if high.utf8Size = 2 then .malformed
      else if high.utf8Size = 1 ∧ low.utf8Size = 1 then
        match hexPair high low with
        | none => .malformed
        | some byte => (hexSlices rest).cons byte
      else .panicked

def hexDecode32 (text : String) : HexDecoded :=
  if text.utf8ByteSize ≠ 64 then .malformed else hexSlices text.toList

/-! ## The backend -/

structure ClnLightningSettlement (Rpc : Type) where
  rpc : Rpc
  /-- The invoices accepted for a settlement and not yet paid. -/
  pendingInvoices : SettlementId → Option Bolt11Invoice := fun _ => none

namespace ClnLightningSettlement

variable {Rpc : Type} [Lightningd Rpc]

def createSettlementInvoice (id : SettlementId) (amount : Millisatoshis)
    (cln : ClnLightningSettlement Rpc) :
    Except LightningError Bolt11Invoice × ClnLightningSettlement Rpc :=
  let answered := Lightningd.call (.invoice amount ("safro-settlement-" ++ id.toText)
    ("Safro settlement " ++ id.toText)) cln.rpc
  let answer : Except LightningError Bolt11Invoice :=
    match answered.1 with
    | .error detail => .error (.backend detail)
    | .ok result =>
        match result.field "bolt11" with
        | none => .error (.backend "invoice response missing bolt11")
        | some text => .ok ⟨text⟩
  (answer, { cln with rpc := answered.2 })

/-- The invoice parses and fixes the amount. -/
def checkInvoice (Rpc : Type) [Lightningd Rpc] (expectedAmount : Millisatoshis)
    (invoice : Bolt11Invoice) : Except LightningError Unit :=
  match Lightningd.parse Rpc invoice.text with
  | .error detail => .error (.malformedInvoice detail)
  | .ok none => .error (.malformedInvoice "invoice has no fixed amount")
  | .ok (some amount) => if amount ≠ expectedAmount then .error .amountMismatch else .ok ()

def acceptSettlementInvoice (id : SettlementId) (expectedAmount : Millisatoshis)
    (invoice : Bolt11Invoice) (cln : ClnLightningSettlement Rpc) :
    Except LightningError Unit × ClnLightningSettlement Rpc :=
  match checkInvoice Rpc expectedAmount invoice with
  | .error error => (.error error, cln)
  | .ok _ => (.ok (), { cln with
      pendingInvoices := Function.update cln.pendingInvoices id (some invoice) })

/-- Pays an invoice, and forgets it when the preimage came back. -/
def pay (id : SettlementId) (invoice : Bolt11Invoice) (cln : ClnLightningSettlement Rpc) :
    Except LightningError PaymentPreimage × ClnLightningSettlement Rpc :=
  let answered := Lightningd.call (.pay invoice.text) cln.rpc
  match answered.1 with
  | .error detail => (.error (.backend detail), { cln with rpc := answered.2 })
  | .ok result =>
      match result.field "payment_preimage" with
      | none => (.error (.backend "pay response missing payment_preimage"),
          { cln with rpc := answered.2 })
      | some text =>
          match hexDecode32 text with
          | .malformed => (.error (.backend "payment_preimage was not 32 bytes of hex"),
              { cln with rpc := answered.2 })
          | .panicked => (.error .panicked, { cln with rpc := answered.2 })
          | .bytes bytes => (.ok ⟨bytes⟩, { cln with
              rpc := answered.2
              pendingInvoices := Function.update cln.pendingInvoices id none })

def release (id : SettlementId) (cln : ClnLightningSettlement Rpc) :
    Except LightningError PaymentPreimage × ClnLightningSettlement Rpc :=
  match cln.pendingInvoices id with
  | none => (.error .noRecordedInvoice, cln)
  | some invoice => cln.pay id invoice

def refund (id : SettlementId) (cln : ClnLightningSettlement Rpc) :
    Except LightningError Unit × ClnLightningSettlement Rpc :=
  (.ok (), { cln with pendingInvoices := Function.update cln.pendingInvoices id none })

instance : LightningSettlement (ClnLightningSettlement Rpc) where
  createSettlementInvoice := createSettlementInvoice
  acceptSettlementInvoice := acceptSettlementInvoice
  release := release
  refund := refund

/-! ## What a call does to the accepted invoices -/

/-- An invoice that was taken is taken again. -/
theorem checkInvoice_ok_iff {amount : Millisatoshis} {invoice : Bolt11Invoice} :
    checkInvoice Rpc amount invoice = .ok () ↔
      Lightningd.parse Rpc invoice.text = .ok (some amount) := by
  unfold checkInvoice
  cases Lightningd.parse Rpc invoice.text with
  | error detail => simp
  | ok parsed =>
      cases parsed with
      | none => simp
      | some found =>
          by_cases same : found = amount
          · simp [same]
          · simp [same]

theorem accept_ok {id : SettlementId} {amount : Millisatoshis} {invoice : Bolt11Invoice}
    {cln : ClnLightningSettlement Rpc}
    (parsed : Lightningd.parse Rpc invoice.text = .ok (some amount)) :
    cln.acceptSettlementInvoice id amount invoice = (.ok (), { cln with
      pendingInvoices := Function.update cln.pendingInvoices id (some invoice) }) := by
  rw [acceptSettlementInvoice, checkInvoice_ok_iff.mpr parsed]

theorem accept_error (id : SettlementId) (cln : ClnLightningSettlement Rpc)
    {amount : Millisatoshis} {invoice : Bolt11Invoice}
    (refused : Lightningd.parse Rpc invoice.text ≠ .ok (some amount)) :
    ∃ error, cln.acceptSettlementInvoice id amount invoice = (.error error, cln) := by
  unfold acceptSettlementInvoice
  cases checked : checkInvoice Rpc amount invoice with
  | error error => exact ⟨error, rfl⟩
  | ok _ => exact absurd (checkInvoice_ok_iff.mp checked) refused

/-- A payment that fails keeps the invoice, one that succeeds forgets it. -/
theorem pay_pending (id : SettlementId) (invoice : Bolt11Invoice)
    (cln : ClnLightningSettlement Rpc) :
    (∃ error, (cln.pay id invoice).1 = .error error ∧ error ≠ .noRecordedInvoice ∧
      (cln.pay id invoice).2.pendingInvoices = cln.pendingInvoices) ∨
    ∃ preimage, (cln.pay id invoice).1 = .ok preimage ∧
      (cln.pay id invoice).2.pendingInvoices = Function.update cln.pendingInvoices id none := by
  unfold pay
  dsimp only
  split
  · exact .inl ⟨_, rfl, by simp, rfl⟩
  · split
    · exact .inl ⟨_, rfl, by simp, rfl⟩
    · split
      · exact .inl ⟨_, rfl, by simp, rfl⟩
      · exact .inl ⟨_, rfl, by simp, rfl⟩
      · exact .inr ⟨_, rfl, rfl⟩

end ClnLightningSettlement

end Safrod.Legacy

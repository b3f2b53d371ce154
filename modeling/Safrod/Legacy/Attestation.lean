import Safrod.Core.Money
import Safrod.Legacy.State

/-!
# Identifiers, amounts and signed statements

A settlement identifier is sixteen random bytes and prints as hex. Attestations and quotes
are signed with secp256k1 keys. The curve and the hash are code of another package: they
are the fields of `Secp`, and what is signed is the source's.
-/

set_option autoImplicit false

namespace Safrod.Legacy

/-! ## Identifiers -/

structure SettlementId where
  bytes : List UInt8
  size : bytes.length = 16
  deriving DecidableEq

def hexDigit (value : ℕ) : Char :=
  if value < 10 then Char.ofNat (48 + value) else Char.ofNat (87 + value)

/-- `{byte:02x}`. -/
def hexByte (byte : UInt8) : List Char := [hexDigit (byte.toNat / 16), hexDigit (byte.toNat % 16)]

/-- `Display`. -/
def SettlementId.toText (id : SettlementId) : String := String.ofList (id.bytes.flatMap hexByte)

/-- An identifier of another record, drawn at random: it never repeats. -/
abbrev ReservationId := ℕ

abbrev QuoteId := ℕ

/-! ## Amounts -/

inductive Currency where
  | ngn
  | kes
  deriving DecidableEq

/-- An amount in minor units. -/
structure FiatAmount where
  currency : Currency
  minorUnits : ℤ
  deriving DecidableEq

abbrev Millisatoshis := ℕ

/-! ## Keys and signatures -/

/-- The curve and the hash. -/
structure Secp where
  SecretKey : Type
  PublicKey : Type
  Signature : Type
  decidableEq : DecidableEq PublicKey
  publicKey : SecretKey → PublicKey
  serialize : PublicKey → List UInt8
  fromSlice : List UInt8 → Option PublicKey
  serializeCompact : Signature → List UInt8
  fromCompact : List UInt8 → Option Signature
  signEcdsa : List UInt8 → SecretKey → Signature
  verifyEcdsa : List UInt8 → Signature → PublicKey → Bool
  sha256 : List UInt8 → List UInt8

instance (secp : Secp) : DecidableEq secp.PublicKey := secp.decidableEq

/-- What a key signs it verifies, and keys and signatures are read back as they were written. -/
structure Secp.Lawful (secp : Secp) : Prop where
  fromSlice_serialize : ∀ key, secp.fromSlice (secp.serialize key) = some key
  fromCompact_serializeCompact : ∀ signature,
    secp.fromCompact (secp.serializeCompact signature) = some signature
  verify_sign : ∀ message key,
    secp.verifyEcdsa message (secp.signEcdsa message key) (secp.publicKey key) = true

/-- Keys of one byte, and signatures that are the name of the signer before the message. -/
def Secp.named : Secp where
  SecretKey := UInt8
  PublicKey := UInt8
  Signature := List UInt8
  decidableEq := inferInstance
  publicKey key := key
  serialize key := [key]
  fromSlice bytes := bytes.head?
  serializeCompact signature := signature
  fromCompact bytes := some bytes
  signEcdsa message key := key :: message
  verifyEcdsa message signature key := signature == key :: message
  sha256 _ := []

theorem Secp.named_lawful : Secp.named.Lawful where
  fromSlice_serialize _ := rfl
  fromCompact_serializeCompact _ := rfl
  verify_sign _ _ := beq_self_eq_true _

/-! ## Attestations -/

/-- A signed claim that a fiat payout reached its beneficiary, or did not. -/
structure PayoutAttestation where
  settlementId : SettlementId
  status : PayoutOutcome
  evidenceRef : String
  observedAtUnix : ℕ
  signerPubkey : List UInt8
  signature : List UInt8
  deriving DecidableEq

inductive AttestationError where
  | malformed
  | invalidSignature
  deriving DecidableEq

/-- `status as u8`. -/
def PayoutOutcome.toByte : PayoutOutcome → UInt8
  | confirmed => 0
  | failed => 1

namespace Attestation

variable (secp : Secp)

def digest (settlementId : SettlementId) (status : PayoutOutcome) (evidenceRef : String)
    (observedAtUnix : ℕ) : List UInt8 :=
  secp.sha256 ("safro/payout-attestation/v1".toUTF8.toList ++ settlementId.bytes ++
    [status.toByte] ++ toBeBytes evidenceRef.utf8ByteSize ++ evidenceRef.toUTF8.toList ++
    toBeBytes observedAtUnix)

def sign (signingKey : secp.SecretKey) (settlementId : SettlementId) (status : PayoutOutcome)
    (evidenceRef : String) (observedAtUnix : ℕ) : PayoutAttestation where
  settlementId := settlementId
  status := status
  evidenceRef := evidenceRef
  observedAtUnix := observedAtUnix
  signerPubkey := secp.serialize (secp.publicKey signingKey)
  signature := secp.serializeCompact
    (secp.signEcdsa (digest secp settlementId status evidenceRef observedAtUnix) signingKey)

/-- Checks the signature against the signer the attestation names. -/
def verify (attestation : PayoutAttestation) : Except AttestationError Unit :=
  match secp.fromSlice attestation.signerPubkey, secp.fromCompact attestation.signature with
  | some pubkey, some signature =>
      if secp.verifyEcdsa (digest secp attestation.settlementId attestation.status
          attestation.evidenceRef attestation.observedAtUnix) signature pubkey then .ok ()
      else .error .invalidSignature
  | _, _ => .error .malformed

variable {secp}

theorem verify_sign (lawful : secp.Lawful) (signingKey : secp.SecretKey)
    (settlementId : SettlementId) (status : PayoutOutcome) (evidenceRef : String)
    (observedAtUnix : ℕ) :
    verify secp (sign secp signingKey settlementId status evidenceRef observedAtUnix) = .ok () := by
  simp only [verify, sign, lawful.fromSlice_serialize, lawful.fromCompact_serializeCompact,
    lawful.verify_sign, if_true]

end Attestation

/-! ## Quotes -/

structure QuoteTerms where
  quoteId : QuoteId
  sourceAmount : FiatAmount
  destinationAmount : FiatAmount
  settlementAmount : Millisatoshis
  feeAmount : FiatAmount
  expiresAtUnix : ℕ
  sourceProvider : List UInt8
  destinationProvider : List UInt8
  deriving DecidableEq

/-- A quote binds the two providers to the exact obligation. -/
structure ExecutableQuote where
  terms : QuoteTerms
  signer : List UInt8
  signature : List UInt8
  deriving DecidableEq

inductive QuoteError where
  | expired
  | malformed
  | invalidSignature
  | wrongProviders
  deriving DecidableEq

namespace Quote

variable (secp : Secp) (toJson : QuoteTerms → List UInt8)

def digest (terms : QuoteTerms) : List UInt8 :=
  secp.sha256 ("safro/executable-quote/v1".toUTF8.toList ++ toJson terms)

def sign (signingKey : secp.SecretKey) (terms : QuoteTerms) : ExecutableQuote where
  terms := terms
  signer := secp.serialize (secp.publicKey signingKey)
  signature := secp.serializeCompact (secp.signEcdsa (digest secp toJson terms) signingKey)

def verify (quote : ExecutableQuote)
    (expectedSigner sourceProvider destinationProvider : secp.PublicKey) (nowUnix : ℕ) :
    Except QuoteError Unit :=
  if quote.terms.expiresAtUnix ≤ nowUnix then .error .expired
  else
    match secp.fromSlice quote.signer, secp.fromCompact quote.signature with
    | some signer, some signature =>
        if signer ≠ expectedSigner ∨
            quote.terms.sourceProvider ≠ secp.serialize sourceProvider ∨
            quote.terms.destinationProvider ≠ secp.serialize destinationProvider then
          .error .wrongProviders
        else if secp.verifyEcdsa (digest secp toJson quote.terms) signature signer then .ok ()
        else .error .invalidSignature
    | _, _ => .error .malformed

end Quote

end Safrod.Legacy

import Safrod.Legacy.Attestation
import Safrod.Library.Text

/-!
# What a signature is over

The bytes that are hashed for an attestation determine its fields: only the evidence is of
any length, and its length is told by the length of the whole. They start otherwise than the
bytes that are hashed for a quote. So a signature over an attestation is over that attestation
only, as long as no two messages have one hash, and no signature is over two hashes.
-/

set_option autoImplicit false

namespace Safrod.Legacy

/-! ## What is hashed -/

/-- The bytes that are hashed for an attestation. -/
def Attestation.message (settlementId : SettlementId) (status : PayoutOutcome)
    (evidenceRef : String) (observedAtUnix : ℕ) : List UInt8 :=
  "safro/payout-attestation/v1".toUTF8.toList ++ settlementId.bytes ++ [status.toByte] ++
    toBeBytes evidenceRef.utf8ByteSize ++ evidenceRef.toUTF8.toList ++ toBeBytes observedAtUnix

/-- The bytes that are hashed for a quote. -/
def Quote.message (toJson : QuoteTerms → List UInt8) (terms : QuoteTerms) : List UInt8 :=
  "safro/executable-quote/v1".toUTF8.toList ++ toJson terms

theorem Attestation.digest_eq (secp : Secp) (settlementId : SettlementId) (status : PayoutOutcome)
    (evidenceRef : String) (observedAtUnix : ℕ) :
    digest secp settlementId status evidenceRef observedAtUnix =
      secp.sha256 (message settlementId status evidenceRef observedAtUnix) := rfl

theorem Quote.digest_eq (secp : Secp) (toJson : QuoteTerms → List UInt8) (terms : QuoteTerms) :
    digest secp toJson terms = secp.sha256 (message toJson terms) := rfl

theorem PayoutOutcome.toByte_injective {outcome other : PayoutOutcome}
    (same : outcome.toByte = other.toByte) : outcome = other := by
  revert same
  cases outcome <;> cases other <;> decide

/-- The bytes of an attestation determine its fields. -/
theorem Attestation.message_inj {id id' : SettlementId} {status status' : PayoutOutcome}
    {evidence evidence' : String} {time time' : ℕ} (word : time < 2 ^ 64) (word' : time' < 2 ^ 64)
    (same : message id status evidence time = message id' status' evidence' time') :
    id = id' ∧ status = status' ∧ evidence = evidence' ∧ time = time' := by
  simp only [message, List.append_assoc] at same
  have fields := List.append_cancel_left same
  obtain ⟨ids, fields⟩ := List.append_inj fields (id.size.trans id'.size.symm)
  obtain ⟨statuses, fields⟩ := List.append_inj fields rfl
  obtain ⟨-, fields⟩ := List.append_inj fields
    ((length_toBeBytes _).trans (length_toBeBytes _).symm)
  -- The two words at the end are of one length, so the texts before them are, too.
  obtain ⟨texts, words⟩ := List.append_inj' fields
    ((length_toBeBytes _).trans (length_toBeBytes _).symm)
  refine ⟨?_, ?_, Text.utf8_inj texts, toBeBytes_inj word word' words⟩
  · cases id
    cases id'
    cases ids
    rfl
  · exact PayoutOutcome.toByte_injective (List.cons.inj statuses).1

theorem attestation_tag : "safro/payout-attestation/v1".toUTF8.toList[6]? = some 112 := by
  rw [Text.utf8_eq_of_ascii (Text.ascii_of_all rfl)]
  decide

theorem quote_tag : "safro/executable-quote/v1".toUTF8.toList[6]? = some 101 := by
  rw [Text.utf8_eq_of_ascii (Text.ascii_of_all rfl)]
  decide

/-- The tags differ in the seventh byte, so what is hashed for an attestation is never what is
hashed for a quote. -/
theorem Attestation.message_ne_quote (id : SettlementId) (status : PayoutOutcome)
    (evidence : String) (time : ℕ) (toJson : QuoteTerms → List UInt8) (terms : QuoteTerms) :
    message id status evidence time ≠ Quote.message toJson terms := by
  intro same
  have seventh := congrArg (fun bytes : List UInt8 => bytes[6]?) same
  simp only [message, Quote.message, List.append_assoc] at seventh
  rw [List.getElem?_append_left (List.getElem?_eq_some_iff.mp attestation_tag).1, attestation_tag,
    List.getElem?_append_left (List.getElem?_eq_some_iff.mp quote_tag).1, quote_tag] at seventh
  exact absurd seventh (by decide)

/-! ## Signatures -/

/-- No two messages have one hash, and what a key signs it verifies for no other hash. -/
structure Secp.Binding (secp : Secp) : Prop where
  sha256_injective : ∀ message other, secp.sha256 message = secp.sha256 other → message = other
  verify_signed : ∀ message other key,
    secp.verifyEcdsa other (secp.signEcdsa message key) (secp.publicKey key) = true →
      other = message

section Binding

variable {secp : Secp}

/-- A signature verifies for what was signed only. -/
theorem Attestation.digest_of_verify (lawful : secp.Lawful) (binding : secp.Binding)
    {attestation : PayoutAttestation} {key : secp.SecretKey} {message : List UInt8}
    (signer : attestation.signerPubkey = secp.serialize (secp.publicKey key))
    (signature : attestation.signature = secp.serializeCompact (secp.signEcdsa message key))
    (verified : verify secp attestation = .ok ()) :
    digest secp attestation.settlementId attestation.status attestation.evidenceRef
      attestation.observedAtUnix = message := by
  unfold verify at verified
  rw [signer, signature, lawful.fromSlice_serialize,
    lawful.fromCompact_serializeCompact] at verified
  dsimp only at verified
  split at verified
  · rename_i valid
    exact binding.verify_signed _ _ key valid
  · cases verified

theorem Quote.digest_of_verify (lawful : secp.Lawful) (binding : secp.Binding)
    {toJson : QuoteTerms → List UInt8} {quote : ExecutableQuote} {key : secp.SecretKey}
    {source destination : secp.PublicKey} {now : ℕ} {message : List UInt8}
    (signature : quote.signature = secp.serializeCompact (secp.signEcdsa message key))
    (verified : verify secp toJson quote (secp.publicKey key) source destination now = .ok ()) :
    digest secp toJson quote.terms = message := by
  unfold verify at verified
  split at verified
  · cases verified
  · rw [signature, lawful.fromCompact_serializeCompact] at verified
    split at verified
    · rename_i signer found read same
      cases same
      split at verified
      · cases verified
      · rename_i matches_
        split at verified
        · rename_i valid
          have self : signer = secp.publicKey key :=
            Decidable.not_not.mp fun differs => matches_ (.inl differs)
          rw [self] at valid
          exact binding.verify_signed _ _ key valid
        · cases verified
    · cases verified

/-- **What is hashed for an attestation determines its fields and is never what is hashed for
a quote, so a signature over an attestation verifies for that attestation only, and no
signature verifies for an attestation and for a quote.** -/
theorem signatures_bind (secp : Secp) (toJson : QuoteTerms → List UInt8) :
    (∀ id id' status status' evidence evidence' time time', time < 2 ^ 64 → time' < 2 ^ 64 →
      Attestation.message id status evidence time =
        Attestation.message id' status' evidence' time' →
      id = id' ∧ status = status' ∧ evidence = evidence' ∧ time = time') ∧
    (∀ id status evidence time terms,
      Attestation.message id status evidence time ≠ Quote.message toJson terms) ∧
    (secp.Lawful → secp.Binding → ∀ key id status evidence time, time < 2 ^ 64 →
      (∀ attestation : PayoutAttestation, attestation.observedAtUnix < 2 ^ 64 →
        attestation.signerPubkey = secp.serialize (secp.publicKey key) →
        attestation.signature =
          (Attestation.sign secp key id status evidence time).signature →
        Attestation.verify secp attestation = .ok () →
        attestation = Attestation.sign secp key id status evidence time) ∧
      ∀ quote source destination now,
        quote.signature = (Attestation.sign secp key id status evidence time).signature →
        Quote.verify secp toJson quote (secp.publicKey key) source destination now ≠ .ok ()) ∧
    (secp.Lawful → secp.Binding → ∀ key terms (attestation : PayoutAttestation),
      attestation.signerPubkey = secp.serialize (secp.publicKey key) →
      attestation.signature = (Quote.sign secp toJson key terms).signature →
      Attestation.verify secp attestation ≠ .ok ()) := by
  refine ⟨?_, ?_, ?_, ?_⟩
  · intro id id' status status' evidence evidence' time time' word word' same
    exact Attestation.message_inj word word' same
  · intro id status evidence time terms
    exact Attestation.message_ne_quote id status evidence time toJson terms
  · intro lawful binding key id status evidence time word
    refine ⟨?_, ?_⟩
    · intro attestation word' signer signature verified
      have hashed := Attestation.digest_of_verify lawful binding signer signature verified
      obtain ⟨sameId, sameStatus, sameEvidence, sameTime⟩ :=
        Attestation.message_inj word' word (binding.sha256_injective _ _ hashed)
      refine (show attestation = ⟨attestation.settlementId, attestation.status,
        attestation.evidenceRef, attestation.observedAtUnix, attestation.signerPubkey,
        attestation.signature⟩ from rfl).trans ?_
      rw [sameId, sameStatus, sameEvidence, sameTime, signer, signature]
      rfl
    · intro quote source destination now signature verified
      have hashed := Quote.digest_of_verify lawful binding signature verified
      exact Attestation.message_ne_quote id status evidence time toJson quote.terms
        (binding.sha256_injective _ _ hashed).symm
  · intro lawful binding key terms attestation signer signature verified
    have hashed := Attestation.digest_of_verify lawful binding signer signature verified
    exact Attestation.message_ne_quote _ _ _ _ toJson terms (binding.sha256_injective _ _ hashed)

/-- The hash is the message. -/
def Secp.plain : Secp := { Secp.named with sha256 := fun message => message }

theorem Secp.plain_lawful : Secp.plain.Lawful where
  fromSlice_serialize _ := rfl
  fromCompact_serializeCompact _ := rfl
  verify_sign _ _ := beq_self_eq_true _

theorem Secp.plain_binding : Secp.plain.Binding where
  sha256_injective _ _ same := same
  verify_signed message other key verified := by
    have same : @BEq.beq (List UInt8) _ (key :: message) (key :: other) = true := verified
    exact (List.cons.inj (eq_of_beq same)).2.symm

def Secp.plainKey : Secp.plain.SecretKey := (7 : UInt8)

/-- An attestation is not verified with the signature over a quote. -/
theorem signatures_bind_plain : ∃ attestation : PayoutAttestation,
    attestation.signature = (Quote.sign Secp.plain (fun _ => []) Secp.plainKey
      ⟨0, ⟨.ngn, 1⟩, ⟨.ngn, 1⟩, 1, ⟨.ngn, 0⟩, 1, [], []⟩).signature ∧
    Attestation.verify Secp.plain attestation ≠ .ok () :=
  ⟨⟨⟨List.replicate 16 0, rfl⟩, .confirmed, "rail", 0, [7], _⟩, rfl,
    (signatures_bind Secp.plain fun _ => []).2.2.2 Secp.plain_lawful Secp.plain_binding
      Secp.plainKey ⟨0, ⟨.ngn, 1⟩, ⟨.ngn, 1⟩, 1, ⟨.ngn, 0⟩, 1, [], []⟩ _ rfl rfl⟩

end Binding

end Safrod.Legacy

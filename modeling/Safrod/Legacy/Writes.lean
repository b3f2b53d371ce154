import Safrod.Legacy.Operations

/-!
# What operations write

Each operation writes one record at most, over the one it read. `Writes` lists what it may
write over what, and every fact about how a record changes is read off it: `Writes.later`
for a record that stays a settlement's, `Writes.kept` for what holds of every record.
-/

set_option autoImplicit false

namespace Safrod.Legacy

variable {secp : Secp}

/-- What an operation may write over the record it read. -/
inductive Writes (daemon : Daemon secp) :
    Operation → Option SettlementRecord → SettlementRecord → Prop
  | begun (id : SettlementId) (fiatAmount : FiatAmount) (btcAmount : Millisatoshis)
      (counterparty : String) (expiry : Option ℕ) :
      Writes daemon (.beginSettlement id fiatAmount btcAmount counterparty expiry) none
        (begunRecord id fiatAmount btcAmount counterparty expiry none)
  | begunFromQuote (now : Option ℕ) (id : SettlementId) (quote : ExecutableQuote)
      (counterparty : String) :
      Writes daemon (.beginSettlementFromQuote now id quote counterparty) none
        (begunRecord id quote.terms.sourceAmount quote.terms.settlementAmount counterparty
          (some quote.terms.expiresAtUnix) (some quote))
  | attached (now : Option ℕ) (id : SettlementId) (invoice : Bolt11Invoice)
      (record : SettlementRecord) (reservation : ReservationId) (same : record.id = id)
      (state : record.state = .quoted) :
      Writes daemon (.attachCounterpartyInvoice now id invoice) (some record) { record with
        state := .settlementConditionCreated
        sourceReservation := some reservation
        counterpartyInvoice := some invoice }
  | prepared (now : Option ℕ) (id : SettlementId) (fiatAmount : FiatAmount)
      (btcAmount : Millisatoshis) (counterparty beneficiary : String) (expiry : Option ℕ)
      (reservation : ReservationId) :
      Writes daemon
        (.prepareDestination now id fiatAmount btcAmount counterparty beneficiary expiry) none
        (preparedRecord id fiatAmount btcAmount counterparty beneficiary expiry reservation)
  | answered (id : SettlementId) (record : SettlementRecord) (outcome : PayoutOutcome)
      (same : record.id = id) (state : record.state = .settlementConditionCreated) :
      Writes daemon (.requestPayout id) (some record) { record with state := outcome.state }
  | timedOut (id : SettlementId) (record : SettlementRecord) (same : record.id = id)
      (state : record.state = .settlementConditionCreated) :
      Writes daemon (.requestPayout id) (some record) { record with state := .payoutUnknown }
  | applied (attestation : PayoutAttestation) (record : SettlementRecord)
      (same : record.id = attestation.settlementId)
      (authorized : daemon.toNode.authorize attestation = .ok ())
      (state : record.state = .settlementConditionCreated ∨ record.state = .payoutUnknown) :
      Writes daemon (.applyPayoutAttestation attestation) (some record) { record with
        state := attestation.status.state
        attestations := record.attestations ++ [attestation] }
  | marked (id : SettlementId) (record : SettlementRecord) (same : record.id = id)
      (state : record.state = .settlementConditionCreated) :
      Writes daemon (.markPayoutUnknown id) (some record) { record with state := .payoutUnknown }
  | reconciled (id : SettlementId) (record : SettlementRecord) (outcome : PayoutOutcome)
      (same : record.id = id) (state : record.state = .payoutUnknown) :
      Writes daemon (.reconcileUnknownPayout id) (some record)
        { record with state := outcome.state }
  | released (id : SettlementId) (record : SettlementRecord) (same : record.id = id)
      (state : record.state = .payoutConfirmed) :
      Writes daemon (.releaseSettlement id) (some record)
        { record with state := .settlementReleased }
  | refunded (id : SettlementId) (record : SettlementRecord) (same : record.id = id)
      (state : record.state = .payoutFailed) :
      Writes daemon (.refundSettlement id) (some record) { record with state := .refunded }
  | conflicted (attestation : PayoutAttestation) (record : SettlementRecord)
      (same : record.id = attestation.settlementId)
      (authorized : daemon.toNode.authorize attestation = .ok ())
      (conflicts : ∃ existing ∈ record.attestations, existing.status ≠ attestation.status)
      (state : record.state.mayDispute = true) :
      Writes daemon (.recordPayoutAttestation attestation) (some record) { record with
        state := .disputed
        attestations := record.attestations ++ [attestation] }
  | recorded (attestation : PayoutAttestation) (record : SettlementRecord)
      (same : record.id = attestation.settlementId)
      (authorized : daemon.toNode.authorize attestation = .ok ())
      (agrees : ∀ existing ∈ record.attestations, existing.status = attestation.status) :
      Writes daemon (.recordPayoutAttestation attestation) (some record)
        { record with attestations := record.attestations ++ [attestation] }

/-! ## How a record changes -/

/-- What no operation takes from a record. -/
structure RecordLater (old new : SettlementRecord) : Prop where
  id : new.id = old.id
  terminal : old.state.isTerminal = true → new.state = old.state
  attestations : old.attestations <+: new.attestations
  btcAmount : new.btcAmount = old.btcAmount
  reservation : old.state ≠ .quoted → new.sourceReservation = old.sourceReservation
  invoice : old.state ≠ .quoted → new.counterpartyInvoice = old.counterpartyInvoice
  leaves : new.state = .quoted → old.state = .quoted

namespace RecordLater

theorem refl (record : SettlementRecord) : RecordLater record record where
  id := rfl
  terminal _ := rfl
  attestations := List.prefix_refl _
  btcAmount := rfl
  reservation _ := rfl
  invoice _ := rfl
  leaves state := state

theorem trans {first second third : SettlementRecord} (before : RecordLater first second)
    (after : RecordLater second third) : RecordLater first third where
  id := after.id.trans before.id
  terminal terminal := by
    have same := before.terminal terminal
    rw [← same] at terminal
    exact (after.terminal terminal).trans same
  attestations := before.attestations.trans after.attestations
  btcAmount := after.btcAmount.trans before.btcAmount
  reservation state :=
    (after.reservation fun quoted => state (before.leaves quoted)).trans (before.reservation state)
  invoice state :=
    (after.invoice fun quoted => state (before.leaves quoted)).trans (before.invoice state)
  leaves state := before.leaves (after.leaves state)

/-- A change of the state of a record that is not in a terminal one. -/
theorem withState {record : SettlementRecord} {state : SettlementState}
    (open_ : record.state.isTerminal = false) (moves : state ≠ .quoted) :
    RecordLater record { record with state := state } where
  id := rfl
  terminal terminal := by
    rw [open_] at terminal
    cases terminal
  attestations := List.prefix_refl _
  btcAmount := rfl
  reservation _ := rfl
  invoice _ := rfl
  leaves quoted := absurd quoted moves

/-- One more attestation. -/
theorem withAttestation (record : SettlementRecord) (attestation : PayoutAttestation) :
    RecordLater record
      { record with attestations := record.attestations ++ [attestation] } where
  id := rfl
  terminal _ := rfl
  attestations := List.prefix_append _ _
  btcAmount := rfl
  reservation _ := rfl
  invoice _ := rfl
  leaves state := state

end RecordLater

theorem PayoutOutcome.state_ne_quoted (outcome : PayoutOutcome) : outcome.state ≠ .quoted := by
  cases outcome <;> decide

variable {daemon : Daemon secp} {operation : Operation} {new : SettlementRecord}

/-- A record is written over by a later one. -/
theorem Writes.later {old : SettlementRecord} (writes : Writes daemon operation (some old) new) :
    RecordLater old new := by
  cases writes with
  | attached now id invoice _ reservation same state =>
      refine ⟨rfl, ?_, List.prefix_refl _, rfl, ?_, ?_, ?_⟩
      · intro terminal
        rw [state] at terminal
        cases terminal
      · exact fun other => absurd state other
      · exact fun other => absurd state other
      · rintro ⟨⟩
  | answered id _ outcome same state =>
      exact .withState (by rw [state]; rfl) outcome.state_ne_quoted
  | timedOut id _ same state => exact .withState (by rw [state]; rfl) (by decide)
  | applied attestation _ same authorized state =>
      refine (RecordLater.withAttestation old attestation).trans
        (.withState ?_ attestation.status.state_ne_quoted)
      rcases state with state | state <;> exact (congrArg _ state).trans rfl
  | marked id _ same state => exact .withState (by rw [state]; rfl) (by decide)
  | reconciled id _ outcome same state =>
      exact .withState (by rw [state]; rfl) outcome.state_ne_quoted
  | released id _ same state => exact .withState (by rw [state]; rfl) (by decide)
  | refunded id _ same state => exact .withState (by rw [state]; rfl) (by decide)
  | conflicted attestation _ same authorized conflicts state =>
      exact (RecordLater.withAttestation old attestation).trans
        (.withState (SettlementState.open_of_mayDispute state) (by decide))
  | recorded attestation _ same authorized agrees => exact .withAttestation old attestation

/-- What holds of every stored record. -/
structure RecordKept (record : SettlementRecord) : Prop where
  key : record.payoutIdempotencyKey = record.id.toText
  quoted : record.state = .quoted → record.sourceReservation = none ∧
    record.counterpartyInvoice = none
  reserved : record.state ≠ .quoted → record.sourceReservation.isSome = true

theorem RecordKept.withState {record : SettlementRecord} (kept : RecordKept record)
    {state : SettlementState} (old : record.state ≠ .quoted) (moves : state ≠ .quoted) :
    RecordKept { record with state := state } where
  key := kept.key
  quoted quoted := absurd quoted moves
  reserved _ := kept.reserved old

/-- Operations keep it. -/
theorem Writes.kept {read : Option SettlementRecord} (writes : Writes daemon operation read new)
    (kept : ∀ record, read = some record → RecordKept record) : RecordKept new := by
  cases writes with
  | begun => exact ⟨rfl, fun _ => ⟨rfl, rfl⟩, fun other => absurd rfl other⟩
  | begunFromQuote => exact ⟨rfl, fun _ => ⟨rfl, rfl⟩, fun other => absurd rfl other⟩
  | prepared =>
      refine ⟨rfl, ?_, fun _ => rfl⟩
      rintro ⟨⟩
  | attached now id invoice record reservation same state =>
      refine ⟨(kept record rfl).key, ?_, fun _ => rfl⟩
      rintro ⟨⟩
  | answered id record outcome same state =>
      exact (kept record rfl).withState (by rw [state]; decide) outcome.state_ne_quoted
  | timedOut id record same state =>
      exact (kept record rfl).withState (by rw [state]; decide) (by decide)
  | applied attestation record same authorized state =>
      have old : record.state ≠ .quoted := by
        rcases state with state | state <;> rw [state] <;> decide
      have moved := (kept record rfl).withState old attestation.status.state_ne_quoted
      exact ⟨moved.key, moved.quoted, moved.reserved⟩
  | marked id record same state =>
      exact (kept record rfl).withState (by rw [state]; decide) (by decide)
  | reconciled id record outcome same state =>
      exact (kept record rfl).withState (by rw [state]; decide) outcome.state_ne_quoted
  | released id record same state =>
      exact (kept record rfl).withState (by rw [state]; decide) (by decide)
  | refunded id record same state =>
      exact (kept record rfl).withState (by rw [state]; decide) (by decide)
  | conflicted attestation record same authorized conflicts state =>
      have old : record.state ≠ .quoted := by
        intro quoted
        rw [quoted] at state
        cases state
      have moved : RecordKept { record with state := .disputed } :=
        (kept record rfl).withState old (by decide)
      exact ⟨moved.key, moved.quoted, moved.reserved⟩
  | recorded attestation record same authorized agrees =>
      have old := kept record rfl
      exact ⟨old.key, old.quoted, old.reserved⟩

/-! ## The store after an operation -/

/-- A record written over the one an operation found. -/
theorem writes_over {id : SettlementId} {old : SettlementRecord} {store before : SettlementStore}
    (found : store.get id = some old) (same : new.id = old.id)
    (kept : before = store) (writes : Writes daemon operation (some old) new) :
    before.put new = store ∨ ∃ record, before.put new = store.put record ∧
      Writes daemon operation (store.get record.id) record := by
  refine .inr ⟨new, congrArg (SettlementStore.put · new) kept, ?_⟩
  rw [same, SettlementStore.get_id found, found]
  exact writes

section Stores

variable {Adapter Lightning : Type} [FiatAdapter Adapter] [LightningSettlement Lightning]
variable {world after : World Adapter Lightning}

theorem World.responded_store {call : NodeCall} {answer : NodeAnswer call}
    (external : call.isExternal = true) (called : World.respond call world = (answer, after)) :
    after.store = world.store := by
  have same := World.respond_store external world
  rwa [called] at same

theorem World.responded_log {call : NodeCall} {answer : NodeAnswer call}
    (external : call.isExternal = true) (called : World.respond call world = (answer, after)) :
    after.log = .called call answer
      (call.settlement.bind fun id => (world.store.get id).map (·.state)) :: world.log := by
  have logged := World.respond_log external world
  rwa [called] at logged

theorem Accepted.store {records : List SettlementRecord} {answer : Except NodeError Unit}
    (accepted : Accepted records world answer after) : after.store = world.store := by
  induction accepted with
  | nil => rfl
  | skipped _ _ _ _ _ _ _ ih => exact ih
  | refused _ _ _ _ _ _ _ _ called => exact World.responded_store rfl called
  | accepted _ _ _ _ _ _ _ _ _ called _ ih => exact ih.trans (World.responded_store rfl called)

/-- The store after an operation has at most one record more, or in the place of the one
it read. -/
theorem Performed.writes {answer : Except NodeError Reply}
    (performed : Performed daemon world operation answer after)
    (fresh : ∀ id, operation.draws = some id → world.store.get id = none) :
    after.store = world.store ∨ ∃ record, after.store = world.store.put record ∧
      Writes daemon operation (world.store.get record.id) record := by
  cases performed with
  | rejected => exact .inl rfl
  | begun id fiatAmount btcAmount counterparty expiry =>
      refine .inr ⟨_, rfl, ?_⟩
      have absent : world.store.get (begunRecord id fiatAmount btcAmount counterparty expiry
        none).id = none := fresh id rfl
      rw [absent]
      exact .begun id fiatAmount btcAmount counterparty expiry
  | begunFromQuote now id quote counterparty =>
      refine .inr ⟨_, rfl, ?_⟩
      have absent : world.store.get (begunRecord id quote.terms.sourceAmount
        quote.terms.settlementAmount counterparty (some quote.terms.expiresAtUnix)
        (some quote)).id = none := fresh id rfl
      rw [absent]
      exact .begunFromQuote now id quote counterparty
  | attachUnreserved _ _ _ _ _ _ _ _ _ called => exact .inl (World.responded_store rfl called)
  | attachRefused _ _ _ _ _ _ _ _ _ _ _ called refused =>
      exact .inl ((World.responded_store rfl refused).trans (World.responded_store rfl called))
  | attached now id invoice record reservation between after found current state called
      accepted =>
      have same := (World.responded_store rfl accepted).trans (World.responded_store rfl called)
      exact writes_over found rfl same
        (.attached now id invoice record reservation (SettlementStore.get_id found) state)
  | invoiceRefused _ _ _ _ called => exact .inl (World.responded_store rfl called)
  | invoiceCreated _ _ _ _ called => exact .inl (World.responded_store rfl called)
  | prepareUnreserved _ _ _ _ _ _ _ _ _ _ _ called =>
      exact .inl (World.responded_store rfl called)
  | prepareRefused _ _ _ _ _ _ _ _ _ _ _ _ _ called refused =>
      exact .inl ((World.responded_store rfl refused).trans (World.responded_store rfl called))
  | prepared now id fiatAmount btcAmount counterparty beneficiary expiry reservation invoice
      between after missing current called created =>
      have same := (World.responded_store rfl created).trans (World.responded_store rfl called)
      refine .inr ⟨_, congrArg (SettlementStore.put · _) same, ?_⟩
      have absent : world.store.get (preparedRecord id fiatAmount btcAmount counterparty
        beneficiary expiry reservation).id = none := missing
      rw [absent]
      exact .prepared now id fiatAmount btcAmount counterparty beneficiary expiry reservation
  | payoutUnreserved _ _ _ _ _ _ _ called => exact .inl (World.responded_store rfl called)
  | payoutAnswered id record reservation outcome after found state reserved called =>
      exact writes_over found rfl (World.responded_store rfl called)
        (.answered id record outcome (SettlementStore.get_id found) state)
  | payoutRejected id record reservation reason after found state reserved called =>
      exact writes_over found rfl (World.responded_store rfl called)
        (.answered id record .failed (SettlementStore.get_id found) state)
  | payoutTimedOut id record reservation after found state reserved called =>
      exact writes_over found rfl (World.responded_store rfl called)
        (.timedOut id record (SettlementStore.get_id found) state)
  | applied attestation record authorized found state =>
      exact writes_over found rfl rfl
        (.applied attestation record (SettlementStore.get_id found) authorized state)
  | marked id record found state =>
      exact writes_over found rfl rfl
        (.marked id record (SettlementStore.get_id found) state)
  | reconcileFailed _ _ _ _ _ _ called => exact .inl (World.responded_store rfl called)
  | stillUnknown _ _ _ _ _ called => exact .inl (World.responded_store rfl called)
  | reconciled id record outcome after found state called =>
      exact writes_over found rfl (World.responded_store rfl called)
        (.reconciled id record outcome (SettlementStore.get_id found) state)
  | releaseFailed _ _ _ _ _ _ called => exact .inl (World.responded_store rfl called)
  | released id record preimage after found state called =>
      exact writes_over found rfl (World.responded_store rfl called)
        (.released id record (SettlementStore.get_id found) state)
  | refundFailed _ _ _ _ _ _ called => exact .inl (World.responded_store rfl called)
  | refunded id record after found state called =>
      exact writes_over found rfl (World.responded_store rfl called)
        (.refunded id record (SettlementStore.get_id found) state)
  | conflicted attestation record authorized found conflicts state =>
      exact writes_over found rfl rfl
        (.conflicted attestation record (SettlementStore.get_id found) authorized conflicts state)
  | recorded attestation record authorized found agrees =>
      exact writes_over found rfl rfl
        (.recorded attestation record (SettlementStore.get_id found) authorized agrees)
  | recovered _ _ accepted => exact .inl accepted.store

end Stores

end Safrod.Legacy

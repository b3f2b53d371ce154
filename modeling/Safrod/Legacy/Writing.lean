import Safrod.Legacy.Writes

/-!
# What a running operation will write

`Writes` says what an operation that ran may have written. Here it is a property of its
program: whatever the calls of the program are answered, it writes only what it may write
over the record it read, and writing is the last thing it does (`program_writes`). This
holds at every point of a run, so it is what is left where operations interleave or stop
halfway.
-/

set_option autoImplicit false

namespace Safrod.Legacy

open Program

variable {secp : Secp}

/-- How far an operation is: it has read a record, or it has written. -/
inductive Progress where
  | read (record : Option SettlementRecord)
  | written

/-- An operation writes what it may write over the record it read last, and then makes no
call. -/
def writing (daemon : Daemon secp) (operation : Operation) :
    Protocol NodeCall NodeAnswer Progress where
  permits
    | .read read, .put record => Writes daemon operation read record
    | .read _, _ => True
    | .written, _ => False
  moves
    | .read _, .put _, _, later => later = .written
    | .read _, .get id, answer, later =>
        later = .read answer ∧ ∀ record, answer = some record → record.id = id
    | known, _, _, later => later = known

/-- After the write an operation has ended. -/
theorem ended_of_written {Value : Type} {ends : Progress → Value → Prop} {daemon : Daemon secp}
    {operation : Operation} {program : Program NodeCall NodeAnswer Value}
    (follows : program.Follows (writing daemon operation) ends .written) :
    ∃ value, program = .done value := by
  cases program with
  | done value => exact ⟨value, rfl⟩
  | ask call next => exact follows.1.elim

section Follows

variable {daemon : Daemon secp} {operation : Operation} {First : Type}
  {read : Option SettlementRecord}

theorem orFail_succeeds {Known Error : Type} {protocol : Protocol NodeCall NodeAnswer Known}
    {wrap : Error → NodeError} {result : Except Error First} {ends : Known → First → Prop}
    {known : Known} (held : ∀ value, result = .ok value → ends known value) :
    Succeeds protocol (orFail wrap result) ends known := by
  cases result with
  | error error => exact .throw _ _ _
  | ok value => exact .pure (held value rfl)

/-- A call that neither reads nor writes a record. -/
theorem external_succeeds {call : NodeCall} (external : call.isExternal = true)
    {ends : Progress → NodeAnswer call → Prop} (held : ∀ answer, ends (.read read) answer) :
    Succeeds (writing daemon operation) (ask call) ends (.read read) := by
  refine .ask ?_ ?_
  · cases call <;> trivial
  · intro answer later moved
    cases call <;> first | (cases moved; exact held answer) | cases external

theorem get_succeeds {id : SettlementId}
    {ends : Progress → Option SettlementRecord → Prop}
    (held : ∀ answer, (∀ record, answer = some record → record.id = id) →
      ends (.read answer) answer) :
    Succeeds (writing daemon operation) (Ask.get id) ends (.read read) := by
  refine .ask trivial ?_
  rintro answer later ⟨rfl, same⟩
  exact held answer same

theorem fetch_succeeds {id : SettlementId}
    {ends : Progress → SettlementRecord → Prop}
    (held : ∀ record, record.id = id → ends (.read (some record)) record) :
    Succeeds (writing daemon operation) (fetch id) ends (.read read) := by
  refine .bind (get_succeeds ?_)
  intro answer same
  cases answer with
  | none => exact .throw _ _ _
  | some record => exact .pure (held record (same record rfl))

theorem put_succeeds {record : SettlementRecord}
    (writes : Writes daemon operation read record) :
    Succeeds (writing daemon operation) (Ask.put record) (fun _ _ => True) (.read read) :=
  .ask writes fun _ _ _ => trivial

/-- What follows a write writes nothing. -/
theorem put_bind_succeeds {record : SettlementRecord} {next : Unit → NodeProgram First}
    (writes : Writes daemon operation read record)
    (quiet : ∀ known, Succeeds (writing daemon operation) (next ()) (fun _ _ => True) known) :
    Succeeds (writing daemon operation) (Ask.put record >>= next) (fun _ _ => True) (.read read) :=
  .bind ((put_succeeds writes).mono fun known _ _ => quiet known)

theorem return_succeeds {value : First} (known : Progress) :
    Succeeds (writing daemon operation) (pure value : NodeProgram First) (fun _ _ => True) known :=
  .pure trivial

theorem fail_succeeds {error : NodeError} (known : Progress) :
    Succeeds (writing daemon operation) (throw error : NodeProgram First) (fun _ _ => True)
      known :=
  .throw _ _ _

theorem begin_writes (id : SettlementId) (fiatAmount : FiatAmount) (btcAmount : Millisatoshis)
    (counterparty : String) (expiry : Option ℕ) :
    Succeeds (writing daemon (.beginSettlement id fiatAmount btcAmount counterparty expiry))
      (beginSettlementWithQuoteExpiry id fiatAmount btcAmount counterparty expiry)
      (fun _ _ => True) (.read none) := by
  refine .bind (orFail_succeeds ?_)
  rintro state ⟨⟩
  exact put_bind_succeeds (.begun id fiatAmount btcAmount counterparty expiry) return_succeeds

theorem beginFromQuote_writes (now : Option ℕ) (id : SettlementId) (quote : ExecutableQuote)
    (counterparty : String) :
    Succeeds (writing daemon (.beginSettlementFromQuote now id quote counterparty))
      (daemon.toNode.beginSettlementFromQuote daemon.toJson now id quote counterparty)
      (fun _ _ => True) (.read none) := by
  unfold Node.beginSettlementFromQuote
  cases daemon.peerIdentity with
  | none => exact .throw _ _ _
  | some peer =>
      refine .bind (orFail_succeeds ?_)
      intro _ _
      refine .bind (orFail_succeeds ?_)
      rintro state ⟨⟩
      exact put_bind_succeeds (.begunFromQuote now id quote counterparty) return_succeeds

theorem attach_writes (now : Option ℕ) (id : SettlementId) (invoice : Bolt11Invoice) :
    Succeeds (writing daemon (.attachCounterpartyInvoice now id invoice))
      (attachCounterpartyInvoice now id invoice) (fun _ _ => True) (.read read) := by
  refine .bind (fetch_succeeds ?_)
  intro record same
  split
  · exact .throw _ _ _
  · refine .bind (orFail_succeeds ?_)
    intro condition created
    by_cases state : record.state = .quoted
    · rw [state, conditionCreated_quoted] at created
      cases created
      refine .bind (external_succeeds rfl ?_)
      intro answer
      refine .bind (orFail_succeeds ?_)
      intro reservation _
      refine .bind (external_succeeds rfl ?_)
      intro answer
      refine .bind (orFail_succeeds ?_)
      intro _ _
      exact put_succeeds (.attached now id invoice record reservation same state)
    · rw [conditionCreated_of_ne state] at created
      cases created

theorem createInvoice_writes (id : SettlementId) (amount : Millisatoshis) :
    Succeeds (writing daemon operation) (createSettlementInvoice id amount)
      (fun known _ => known = .read read) (.read read) := by
  refine .bind (external_succeeds rfl ?_)
  intro answer
  exact orFail_succeeds fun _ _ => rfl

theorem prepare_writes (now : Option ℕ) (id : SettlementId) (fiatAmount : FiatAmount)
    (btcAmount : Millisatoshis) (counterparty beneficiary : String) (expiry : Option ℕ) :
    Succeeds (writing daemon
        (.prepareDestination now id fiatAmount btcAmount counterparty beneficiary expiry))
      (prepareDestination now id fiatAmount btcAmount counterparty beneficiary expiry)
      (fun _ _ => True) (.read read) := by
  refine .bind (get_succeeds ?_)
  intro answer _
  cases answer with
  | some record => exact .throw _ _ _
  | none =>
      dsimp only
      split
      · exact .throw _ _ _
      · refine .bind (orFail_succeeds ?_)
        rintro begun ⟨⟩
        refine .bind (orFail_succeeds ?_)
        rintro state ⟨⟩
        refine .bind (external_succeeds rfl ?_)
        intro answer
        refine .bind (orFail_succeeds ?_)
        intro reservation _
        refine .bind ((createInvoice_writes id btcAmount).mono ?_)
        rintro known invoice rfl
        exact put_bind_succeeds
          (.prepared now id fiatAmount btcAmount counterparty beneficiary expiry reservation)
          return_succeeds

theorem requestPayout_writes (id : SettlementId) :
    Succeeds (writing daemon (.requestPayout id)) (requestPayout id) (fun _ _ => True)
      (.read read) := by
  refine .bind (fetch_succeeds ?_)
  intro record same
  refine .bind (orFail_succeeds ?_)
  intro requested legal
  obtain ⟨state, rfl⟩ := transition_requestPayout.mp legal
  cases reserved : record.sourceReservation with
  | none => exact .throw _ _ _
  | some reservation =>
      refine .bind (external_succeeds rfl ?_)
      intro answer
      cases answer with
      | ok outcome =>
          refine .bind (orFail_succeeds ?_)
          intro next moved
          rw [transition_observePayout] at moved
          cases moved
          rw [← reserved]
          exact put_bind_succeeds (.answered id record outcome same state) return_succeeds
      | error error =>
          cases error with
          | rejected reason =>
              refine .bind (orFail_succeeds ?_)
              rintro next ⟨⟩
              rw [← reserved]
              exact put_bind_succeeds (.answered id record .failed same state) fail_succeeds
          | timeout =>
              refine .bind (orFail_succeeds ?_)
              rintro next ⟨⟩
              rw [← reserved]
              exact put_bind_succeeds (.timedOut id record same state) fail_succeeds
          | reservationNotFound => exact .throw _ _ _

theorem apply_writes (attestation : PayoutAttestation) :
    Succeeds (writing daemon (.applyPayoutAttestation attestation))
      (daemon.toNode.applyPayoutAttestation attestation) (fun _ _ => True) (.read read) := by
  refine .bind (orFail_succeeds ?_)
  intro _ authorized
  refine .bind (fetch_succeeds ?_)
  intro record same
  have written : record.state = .settlementConditionCreated ∨ record.state = .payoutUnknown →
      Succeeds (writing daemon (.applyPayoutAttestation attestation)) (Ask.put { record with
        state := attestation.status.state
        attestations := record.attestations ++ [attestation] }) (fun _ _ => True)
      (.read (some record)) :=
    fun state => put_succeeds (.applied attestation record same authorized state)
  split
  · rename_i state
    refine .bind (orFail_succeeds ?_)
    intro requested legal
    obtain ⟨-, rfl⟩ := transition_requestPayout.mp legal
    refine .bind (orFail_succeeds ?_)
    intro next moved
    rw [transition_observePayout] at moved
    cases moved
    exact written (.inl state)
  · rename_i state
    refine .bind (orFail_succeeds ?_)
    intro next moved
    rw [state, transition_reconcileUnknown] at moved
    cases moved
    exact written (.inr state)
  · exact .bind (.throw _ _ _)

theorem markUnknown_writes (id : SettlementId) :
    Succeeds (writing daemon (.markPayoutUnknown id)) (markPayoutUnknown id) (fun _ _ => True)
      (.read read) := by
  refine .bind (fetch_succeeds ?_)
  intro record same
  refine .bind (orFail_succeeds ?_)
  intro requested legal
  obtain ⟨state, rfl⟩ := transition_requestPayout.mp legal
  refine .bind (orFail_succeeds ?_)
  rintro next ⟨⟩
  exact put_succeeds (.marked id record same state)

theorem reconcile_writes (id : SettlementId) :
    Succeeds (writing daemon (.reconcileUnknownPayout id)) (reconcileUnknownPayout id)
      (fun _ _ => True) (.read read) := by
  refine .bind (fetch_succeeds ?_)
  intro record same
  split
  · exact .throw _ _ _
  · rename_i unknown
    have state : record.state = .payoutUnknown := not_not.mp unknown
    refine .bind (external_succeeds rfl ?_)
    intro answer
    refine .bind (orFail_succeeds ?_)
    intro outcome _
    cases outcome with
    | none => exact .throw _ _ _
    | some outcome =>
        refine .bind (orFail_succeeds ?_)
        intro next moved
        rw [state, transition_reconcileUnknown] at moved
        cases moved
        exact put_bind_succeeds (.reconciled id record outcome same state) return_succeeds

theorem release_writes (id : SettlementId) :
    Succeeds (writing daemon (.releaseSettlement id)) (releaseSettlement id) (fun _ _ => True)
      (.read read) := by
  refine .bind (fetch_succeeds ?_)
  intro record same
  refine .bind (orFail_succeeds ?_)
  intro next legal
  obtain ⟨state, rfl⟩ := transition_releaseSettlement.mp legal
  refine .bind (external_succeeds rfl ?_)
  intro answer
  refine .bind (orFail_succeeds ?_)
  intro preimage _
  exact put_bind_succeeds (.released id record same state) return_succeeds

theorem refund_writes (id : SettlementId) :
    Succeeds (writing daemon (.refundSettlement id)) (refundSettlement id) (fun _ _ => True)
      (.read read) := by
  refine .bind (fetch_succeeds ?_)
  intro record same
  refine .bind (orFail_succeeds ?_)
  intro next legal
  obtain ⟨state, rfl⟩ := transition_refund.mp legal
  refine .bind (external_succeeds rfl ?_)
  intro answer
  refine .bind (orFail_succeeds ?_)
  intro _ _
  exact put_succeeds (.refunded id record same state)

theorem record_writes (attestation : PayoutAttestation) :
    Succeeds (writing daemon (.recordPayoutAttestation attestation))
      (daemon.toNode.recordPayoutAttestation attestation) (fun _ _ => True) (.read read) := by
  refine .bind (orFail_succeeds ?_)
  intro _ authorized
  refine .bind (fetch_succeeds ?_)
  intro record same
  dsimp only
  split
  · rename_i conflicts
    refine .bind (orFail_succeeds ?_)
    intro next legal
    obtain ⟨state, rfl⟩ := transition_dispute.mp legal
    exact put_bind_succeeds (.conflicted attestation record same authorized conflicts state)
      fail_succeeds
  · rename_i agrees
    refine put_succeeds (.recorded attestation record same authorized ?_)
    intro existing member
    by_contra differs
    exact agrees ⟨existing, member, differs⟩

theorem acceptStored_writes (records : List SettlementRecord) :
    Succeeds (writing daemon operation) (acceptStored records) (fun _ _ => True) (.read read) := by
  induction records with
  | nil => exact .pure trivial
  | cons record rest ih =>
      simp only [acceptStored]
      split
      · exact ih
      · split
        · refine .bind (external_succeeds rfl ?_)
          intro answer
          exact .bind (orFail_succeeds fun _ _ => ih)
        · exact ih

theorem recover_writes :
    Succeeds (writing daemon .recover) recover (fun _ _ => True) (.read read) := by
  refine .bind (.ask trivial ?_)
  rintro records later rfl
  exact acceptStored_writes records

/-- **An operation writes only what it may write over the record it read.** -/
theorem program_writes (daemon : Daemon secp) (operation : Operation) :
    Succeeds (writing daemon operation) (daemon.program operation) (fun _ _ => True)
      (.read none) := by
  cases operation with
  | beginSettlement => exact .map (begin_writes _ _ _ _ _)
  | beginSettlementFromQuote => exact .map (beginFromQuote_writes _ _ _ _)
  | attachCounterpartyInvoice => exact .map (attach_writes _ _ _)
  | createSettlementInvoice => exact .map ((createInvoice_writes _ _).mono fun _ _ _ => trivial)
  | prepareDestination => exact .map (prepare_writes _ _ _ _ _ _ _)
  | requestPayout => exact .map (requestPayout_writes _)
  | applyPayoutAttestation => exact .map (apply_writes _)
  | markPayoutUnknown => exact .map (markUnknown_writes _)
  | reconcileUnknownPayout => exact .map (reconcile_writes _)
  | releaseSettlement => exact .map (release_writes _)
  | refundSettlement => exact .map (refund_writes _)
  | recordPayoutAttestation => exact .map (record_writes _)
  | recover => exact .map recover_writes

end Follows

end Safrod.Legacy

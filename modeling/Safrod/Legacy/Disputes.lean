import Safrod.Legacy.Exclusion

/-!
# Conflicting evidence

A settlement for which the peer said that the payout was made and that it failed is to
become a dispute. `apply_payout_attestation` refuses a second attestation and forgets it,
and so does `record_payout_attestation` where a dispute is not legal, so the conflict may
never show (`conflict_forgotten`). `conflicts_disputed_iff` says which runs dispute every
conflict.
-/

set_option autoImplicit false

namespace Safrod.Legacy

open Machine

/-- The peer said so, and the settlement was neither released nor refunded then. -/
def ReceivedInTime (id : SettlementId) (status : PayoutOutcome) (log : List LogEntry) : Prop :=
  ∃ attestation stored, LogEntry.received attestation (some stored) ∈ log ∧
    attestation.settlementId = id ∧ attestation.status = status ∧
    stored ≠ .settlementReleased ∧ stored ≠ .refunded

theorem ReceivedInTime.mono {id : SettlementId} {status : PayoutOutcome}
    {earlier later : List LogEntry} (received : ReceivedInTime id status earlier)
    (subset : ∀ entry ∈ earlier, entry ∈ later) : ReceivedInTime id status later := by
  obtain ⟨attestation, stored, member, rest⟩ := received
  exact ⟨attestation, stored, subset _ member, rest⟩

/-- What the operation makes of conflicting evidence is a dispute. -/
def HandlesConflict (record : SettlementRecord) : Operation → Prop
  | .recordPayoutAttestation attestation =>
      record.state = .disputed ∨ (record.state.mayDispute = true ∧
        ∃ existing ∈ record.attestations, existing.status ≠ attestation.status)
  | _ => record.state = .disputed

section Runs

variable {secp : Secp} {Adapter Lightning : Type} [FiatAdapter Adapter]
  [LightningSettlement Lightning] {daemon : Daemon secp}
  {surroundings : Surroundings Adapter Lightning} {operation : Operation}
  {answer : Except NodeError Reply} {world after : World Adapter Lightning}

/-- Every settlement of which the peer said both is disputed. -/
def ConflictsDisputed (world : World Adapter Lightning) : Prop :=
  ∀ id, ReceivedInTime id .confirmed world.log → ReceivedInTime id .failed world.log →
    world.store.Has id .disputed

/-- Evidence against what was received finds a settlement that is disputed, or disputes it. -/
def HandlesConflicts (daemon : Daemon secp) (world : World Adapter Lightning) :
    NodeAction surroundings.Event → Prop
  | .perform operation => ∀ attestation record other, operation.brings = some attestation →
      daemon.toNode.authorize attestation = .ok () →
      world.store.get attestation.settlementId = some record →
      record.state ≠ .settlementReleased → record.state ≠ .refunded →
      other ≠ attestation.status → ReceivedInTime attestation.settlementId other world.log →
      HandlesConflict record operation
  | .happen _ => True

/-! ## What an attestation makes of a settlement -/

theorem handles_apply {attestation : PayoutAttestation} {record : SettlementRecord}
    (performed : Performed daemon world (.applyPayoutAttestation attestation) answer after)
    (found : world.store.get attestation.settlementId = some record) :
    after.store.Has attestation.settlementId .disputed ↔ record.state = .disputed := by
  have here : record.id = attestation.settlementId := SettlementStore.get_id found
  cases performed with
  | rejected => exact SettlementStore.has_iff found
  | applied _ old authorized oldFound state =>
      rw [found] at oldFound
      cases oldFound
      refine Iff.trans (has_putRecord world (by exact here)) (iff_of_false ?_ ?_)
      · cases attestation.status <;> nofun
      · rcases state with state | state <;> rw [state] <;> decide

theorem handles_record {attestation : PayoutAttestation} {record : SettlementRecord}
    (performed : Performed daemon world (.recordPayoutAttestation attestation) answer after)
    (authorized : daemon.toNode.authorize attestation = .ok ())
    (found : world.store.get attestation.settlementId = some record) :
    after.store.Has attestation.settlementId .disputed ↔
      HandlesConflict record (.recordPayoutAttestation attestation) := by
  have here : record.id = attestation.settlementId := SettlementStore.get_id found
  cases performed with
  | rejected _ _ why =>
      rw [SettlementStore.has_iff found]
      refine ⟨.inl, ?_⟩
      rintro (state | ⟨may, conflicts⟩)
      · exact state
      · cases why with
        | recordUnauthorized _ _ unauthorized =>
            rw [authorized] at unauthorized
            cases unauthorized
        | recordUnknown _ _ missing =>
            rw [found] at missing
            cases missing
        | recordIllegal _ old _ oldFound _ illegal =>
            rw [found] at oldFound
            cases oldFound
            rw [may] at illegal
            cases illegal
  | conflicted _ old _ oldFound conflicts may =>
      rw [found] at oldFound
      cases oldFound
      exact Iff.trans (has_putRecord world (by exact here))
        (iff_of_true rfl (.inr ⟨may, conflicts⟩))
  | recorded _ old _ oldFound agrees =>
      rw [found] at oldFound
      cases oldFound
      refine Iff.trans (has_putRecord world (by exact here)) ⟨.inl, ?_⟩
      rintro (state | ⟨-, existing, member, differs⟩)
      · exact state
      · exact absurd (agrees existing member) differs

/-- After an authorized attestation the settlement is disputed exactly when the operation
handles conflicts. -/
theorem handles_iff {attestation : PayoutAttestation} {record : SettlementRecord}
    (performed : Performed daemon world operation answer after)
    (brings : operation.brings = some attestation)
    (authorized : daemon.toNode.authorize attestation = .ok ())
    (found : world.store.get attestation.settlementId = some record) :
    after.store.Has attestation.settlementId .disputed ↔ HandlesConflict record operation := by
  cases operation with
  | applyPayoutAttestation _ =>
      cases brings
      exact handles_apply performed found
  | recordPayoutAttestation _ =>
      cases brings
      exact handles_record performed authorized found
  | _ => cases brings

/-! ## What the log has received -/

theorem mem_evidence {attestation : PayoutAttestation} {stored : Option SettlementState}
    (performed : Performed daemon world operation answer after) :
    LogEntry.received attestation stored ∈ daemon.evidence operation answer world ↔
      operation.brings = some attestation ∧ daemon.toNode.authorize attestation = .ok () ∧
        stored = world.stored attestation.settlementId := by
  have noted : ∀ other : PayoutAttestation,
      LogEntry.received attestation stored ∈ (if daemon.toNode.authorize other = .ok () then
        [LogEntry.received other (world.stored other.settlementId)] else []) ↔
      some other = some attestation ∧ daemon.toNode.authorize attestation = .ok () ∧
        stored = world.stored attestation.settlementId := by
    intro other
    split
    · rename_i authorized
      rw [List.mem_singleton]
      constructor
      · rintro ⟨⟩
        exact ⟨rfl, authorized, rfl⟩
      · rintro ⟨⟨⟩, -, rfl⟩
        rfl
    · rename_i unauthorized
      refine iff_of_false List.not_mem_nil ?_
      rintro ⟨⟨⟩, authorized, -⟩
      exact unauthorized authorized
  cases operation with
  | applyPayoutAttestation other =>
      cases performed with
      | rejected => exact noted other
      | applied _ _ authorized =>
          have shown := noted other
          rw [if_pos authorized] at shown
          refine Iff.trans ?_ shown
          simp only [Daemon.evidence, List.mem_cons, reduceCtorEq, false_or]
  | recordPayoutAttestation other => exact noted other
  | _ =>
      refine iff_of_false List.not_mem_nil ?_
      rintro ⟨⟨⟩, -⟩

/-- The log has received what it had, and what the operation brought. -/
theorem receivedInTime_iff {id : SettlementId} {status : PayoutOutcome}
    (performed : Performed daemon world operation answer after) :
    ReceivedInTime id status (daemon.evidence operation answer world ++ after.log) ↔
      ReceivedInTime id status world.log ∨
        ∃ attestation record, operation.brings = some attestation ∧
          daemon.toNode.authorize attestation = .ok () ∧ attestation.settlementId = id ∧
          attestation.status = status ∧ world.store.get id = some record ∧
          record.state ≠ .settlementReleased ∧ record.state ≠ .refunded := by
  have explained := performed.explained
  constructor
  · rintro ⟨attestation, stored, member, rfl, same, released, refunded⟩
    rcases List.mem_append.mp member with noted | logged
    · obtain ⟨brings, authorized, was⟩ := (mem_evidence performed).mp noted
      obtain ⟨record, found, rfl⟩ := Option.map_eq_some_iff.mp was.symm
      exact .inr ⟨attestation, record, brings, authorized, rfl, same, found, released, refunded⟩
    · rcases explained.mem logged with impossible | old
      · exact impossible.elim
      · exact .inl ⟨attestation, stored, old, rfl, same, released, refunded⟩
  · rintro (received | ⟨attestation, record, brings, authorized, rfl, same, found, released,
      refunded⟩)
    · obtain ⟨entries, grown, -⟩ := explained
      rw [grown]
      exact received.mono fun entry member =>
        List.mem_append_right _ (List.mem_append_right _ member)
    · refine ⟨attestation, record.state, ?_, rfl, same, released, refunded⟩
      refine List.mem_append_left _ ((mem_evidence performed).mpr ⟨brings, authorized, ?_⟩)
      exact (congrArg (Option.map _) found).symm

/-! ## Every run -/

/-- Evidence of both kinds is what came in before, or the last word against it. -/
theorem both_received {status : PayoutOutcome} {id : SettlementId} {log : List LogEntry}
    (received : ReceivedInTime id status log) {other : PayoutOutcome} (differs : other ≠ status)
    (opposite : ReceivedInTime id other log) :
    ReceivedInTime id .confirmed log ∧ ReceivedInTime id .failed log := by
  cases status <;> cases other
  · exact absurd rfl differs
  · exact ⟨received, opposite⟩
  · exact ⟨opposite, received⟩
  · exact absurd rfl differs

/-- From a state without a forgotten conflict, a step leads to one exactly when it does not
handle a conflict. -/
theorem disputed_next {next : World Adapter Lightning} {action : NodeAction surroundings.Event}
    (held : ConflictsDisputed world)
    (step : (daemon.operating surroundings).step world action = some next) :
    ConflictsDisputed next ↔ HandlesConflicts daemon world action := by
  have later := step_later step
  cases action with
  | happen event =>
      cases step
      exact iff_of_true held trivial
  | perform operation =>
      rcases operating_step step with ⟨same, answer, after, ⟨⟩, -, performed, rfl⟩ | ⟨⟨_, ⟨⟩⟩, -⟩
      have received : ∀ id status,
          ReceivedInTime id status (daemon.evidence operation answer world ++ after.log) ↔ _ :=
        fun id status => receivedInTime_iff performed
      constructor
      · intro disputed attestation record other brings authorized found released refunded
          differs opposite
        have now := (received attestation.settlementId attestation.status).mpr
          (.inr ⟨attestation, record, brings, authorized, rfl, rfl, found, released, refunded⟩)
        have before := (received attestation.settlementId other).mpr (.inl opposite)
        obtain ⟨confirmed, failed⟩ := both_received now differs before
        exact (handles_iff performed brings authorized found).mp
          (disputed attestation.settlementId confirmed failed)
      · intro handles id confirmed failed
        rcases (received id .confirmed).mp confirmed with confirmedOld |
          ⟨attestation, record, brings, authorized, rfl, status, found, released, refunded⟩
        · rcases (received id .failed).mp failed with failedOld |
            ⟨attestation, record, brings, authorized, rfl, status, found, released, refunded⟩
          · exact (held id confirmedOld failedOld).later rfl later
          · exact (handles_iff performed brings authorized found).mpr
              (handles attestation record .confirmed brings authorized found released refunded
                (by rw [status]; decide) confirmedOld)
        · rcases (received attestation.settlementId .failed).mp failed with failedOld |
            ⟨other, _, otherBrings, -, -, otherStatus, -⟩
          · exact (handles_iff performed brings authorized found).mpr
              (handles attestation record .failed brings authorized found released refunded
                (by rw [status]; decide) failedOld)
          · -- One attestation is not of both kinds.
            cases brings.symm.trans otherBrings
            cases status.symm.trans otherStatus

/-- **A run disputes every conflict exactly when each attestation that contradicts what was
received finds its settlement disputed, or is recorded against a contradicting attestation
that is stored, in a state in which a dispute is legal.** -/
theorem conflicts_disputed_iff {start last : World Adapter Lightning}
    (initial : (daemon.operating surroundings).initial start)
    {actions : List (NodeAction surroundings.Event)}
    (ran : (daemon.operating surroundings).run start actions = some last) :
    (∀ world ∈ (daemon.operating surroundings).visited start actions, ConflictsDisputed world) ↔
      (daemon.operating surroundings).StepsMeet (HandlesConflicts daemon) start actions := by
  refine forall_visited_iff_stepsMeet ConflictsDisputed (HandlesConflicts daemon) ?_
    (.start initial) ?_ ran
  · intro world action next _ held step
    exact disputed_next held step
  · rintro id ⟨attestation, stored, member, -⟩
    rw [initial.2.1] at member
    cases member

/-- The peer confirms the payout and then says that it failed, and the settlement is
released. -/
def releasedInConflict : List (NodeAction Surroundings.scripted.Event) :=
  firstSettlement ++ [.perform (.applyPayoutAttestation (peerSays .confirmed)),
    .perform (.applyPayoutAttestation (peerSays .failed)), .perform (.releaseSettlement firstId)]

/-- The peer confirms the payout, and that it failed is recorded. -/
def disputedOnRecord : List (NodeAction Surroundings.scripted.Event) :=
  firstSettlement ++ [.perform (.applyPayoutAttestation (peerSays .confirmed)),
    .perform (.recordPayoutAttestation (peerSays .failed))]

/-- A conflict that is recorded while a dispute is legal is disputed. -/
theorem conflicts_disputed_recorded :
    (∃ world, (payer.operating .scripted).run idlePayer disputedOnRecord = some world) ∧
    ∀ world ∈ (payer.operating .scripted).visited idlePayer disputedOnRecord,
      ConflictsDisputed world := by
  have met : (payer.operating .scripted).StepsMeet (HandlesConflicts payer) idlePayer
      disputedOnRecord := by
    refine .cons ?_ rfl (.cons ?_ rfl (.cons ?_ rfl (.cons ?_ rfl (.nil _))))
    · rintro _ _ _ ⟨⟩
    · rintro _ _ _ ⟨⟩
    · rintro attestation record other - - - - - - ⟨_, _, received, -⟩
      change _ ∈ [LogEntry.called (.acceptSettlementInvoice firstId 7 ⟨"lnbc"⟩) (.ok ())
        (some .quoted), .called (.reserve ⟨.ngn, 5⟩) (.ok 0) none] at received
      simp at received
    · rintro attestation record other ⟨⟩ - ⟨⟩ - - - -
      exact .inr ⟨rfl, peerSays .confirmed, List.mem_cons_self, nofun⟩
  exact ⟨⟨_, rfl⟩, (conflicts_disputed_iff ⟨rfl, rfl, trivial⟩ rfl).mpr met⟩

/-- A second attestation that is applied is refused and forgotten. -/
theorem conflict_forgotten : ¬∀ world, (payer.operating .scripted).Reachable world →
    ConflictsDisputed world := by
  intro disputed
  obtain ⟨world, ran, log, state⟩ : ∃ world, (payer.operating .scripted).run idlePayer
      releasedInConflict = some world ∧
      (∃ earlier, world.log =
        [.called (.release firstId) (.ok ⟨[]⟩) (some .payoutConfirmed),
          .received (peerSays .failed) (some .payoutConfirmed),
          .applied (peerSays .confirmed),
          .received (peerSays .confirmed) (some .settlementConditionCreated)] ++ earlier) ∧
      world.store.Has firstId .settlementReleased :=
    ⟨_, rfl, ⟨_, rfl⟩, ⟨_, rfl, rfl⟩⟩
  obtain ⟨earlier, log⟩ := log
  have confirmed : ReceivedInTime firstId .confirmed world.log :=
    ⟨peerSays .confirmed, .settlementConditionCreated, by rw [log]; simp, rfl, rfl, nofun, nofun⟩
  have failed : ReceivedInTime firstId .failed world.log :=
    ⟨peerSays .failed, .payoutConfirmed, by rw [log]; simp, rfl, rfl, nofun, nofun⟩
  cases (disputed world (reachable_of_run ⟨rfl, rfl, trivial⟩ ran) firstId confirmed failed).unique
    state

end Runs

end Safrod.Legacy

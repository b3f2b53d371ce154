import Safrod.Legacy.Exclusion

/-!
# Releases on payout evidence

A payer is to release a settlement only on the signed word of its peer. A payout that it
requests of its own rail confirms the settlement without one (`released_without_evidence`).
Runs in which the own rail confirms nothing are as they should be (`release_gated`).
-/

set_option autoImplicit false

namespace Safrod.Legacy

open Machine

/-! ## What comes before an entry of a log -/

/-- Each entry has what it needs before it. -/
def Gated (needs : LogEntry → List LogEntry → Prop) (log : List LogEntry) : Prop :=
  ∀ later entry earlier, log = later ++ entry :: earlier → needs entry earlier

theorem Gated.nil (needs : LogEntry → List LogEntry → Prop) : Gated needs [] := by
  intro later entry earlier same
  cases later <;> cases same

theorem Gated.cons {needs : LogEntry → List LogEntry → Prop} {entry : LogEntry}
    {log : List LogEntry} (gated : Gated needs log) (met : needs entry log) :
    Gated needs (entry :: log) := by
  intro later other earlier same
  cases later with
  | nil =>
      cases same
      exact met
  | cons newest later =>
      cases same
      exact gated later other earlier rfl

theorem Gated.grew {needs : LogEntry → List LogEntry → Prop} {first second : List LogEntry}
    (gated : Gated needs first)
    (mono : ∀ entry log more, needs entry log → needs entry (more ++ log))
    (grew : Grew first second fun entry => needs entry first) : Gated needs second := by
  obtain ⟨entries, rfl, held⟩ := grew
  induction entries with
  | nil => exact gated
  | cons entry entries ih =>
      refine Gated.cons (ih fun other member => held other (List.mem_cons_of_mem entry member)) ?_
      exact mono entry first entries (held entry List.mem_cons_self)

section Evidence

variable {secp : Secp} {Adapter Lightning : Type} [FiatAdapter Adapter]
  [LightningSettlement Lightning] {daemon : Daemon secp}
  {surroundings : Surroundings Adapter Lightning} {operation : Operation}
  {answer : Except NodeError Reply} {world after : World Adapter Lightning}

/-! ## Release on the word of the peer -/

/-- The own rail does not confirm the payout an operation asks it for. -/
def RailSilentOn (world : World Adapter Lightning) : Operation → Prop
  | .requestPayout id => ∀ record reservation, world.store.get id = some record →
      record.state = .settlementConditionCreated → record.sourceReservation = some reservation →
      (FiatAdapter.initiatePayout reservation record.beneficiary record.payoutIdempotencyKey
        world.adapter).1 ≠ .ok .confirmed
  | .reconcileUnknownPayout id => ∀ record, world.store.get id = some record →
      record.state = .payoutUnknown →
      (FiatAdapter.queryPayout record.payoutIdempotencyKey world.adapter).1 ≠ .ok (some .confirmed)
  | _ => True

def RailSilent (world : World Adapter Lightning) : NodeAction surroundings.Event → Prop
  | .perform operation => RailSilentOn world operation
  | .happen _ => True

/-- An attestation was applied by which the peer confirms the payout. -/
def ConfirmedBy (peer : secp.PublicKey) (id : SettlementId) (log : List LogEntry) : Prop :=
  ∃ attestation, LogEntry.applied attestation ∈ log ∧ attestation.settlementId = id ∧
    attestation.status = .confirmed ∧ Attestation.verify secp attestation = .ok () ∧
    secp.fromSlice attestation.signerPubkey = some peer

theorem ConfirmedBy.append {peer : secp.PublicKey} {id : SettlementId} {log : List LogEntry}
    (confirmed : ConfirmedBy peer id log) (more : List LogEntry) :
    ConfirmedBy peer id (more ++ log) := by
  obtain ⟨attestation, member, rest⟩ := confirmed
  exact ⟨attestation, List.mem_append_right more member, rest⟩

/-- An authorized attestation verifies, and the peer signed it. -/
theorem Node.authorize_ok {node : Node secp} {attestation : PayoutAttestation}
    (authorized : node.authorize attestation = .ok ()) :
    Attestation.verify secp attestation = .ok () ∧
      ∀ peer, node.peerIdentity = some peer →
        secp.fromSlice attestation.signerPubkey = some peer := by
  unfold Node.authorize at authorized
  cases verified : Attestation.verify secp attestation with
  | error error =>
      rw [verified] at authorized
      cases authorized
  | ok _ =>
      refine ⟨rfl, ?_⟩
      intro peer configured
      rw [verified, configured] at authorized
      cases read : secp.fromSlice attestation.signerPubkey with
      | none =>
          simp only [read] at authorized
          cases authorized
      | some actual =>
          simp only [read] at authorized
          by_cases same : actual = peer
          · rw [same]
          · simp only [ne_eq, same, not_false_eq_true, if_true] at authorized
            cases authorized

theorem apply_answer {attestation : PayoutAttestation}
    (performed : Performed daemon world (.applyPayoutAttestation attestation) answer after) :
    after = world ∨ answer = .ok .done := by
  cases performed with
  | rejected => exact .inl rfl
  | applied => exact .inr rfl

/-- A record that is written in another state is not the confirmed one. -/
theorem has_of_put {store before : SettlementStore} {record : SettlementRecord}
    {id : SettlementId} {state : SettlementState} (has : (before.put record).Has id state)
    (same : before = store) (differs : record.state ≠ state) : store.Has id state := by
  subst same
  rw [SettlementStore.has_put_iff] at has
  split at has
  · exact absurd has differs
  · exact has

theorem requestPayout_silent {requested id : SettlementId}
    (performed : Performed daemon world (.requestPayout requested) answer after)
    (silent : RailSilentOn world (.requestPayout requested))
    (has : after.store.Has id .payoutConfirmed) : world.store.Has id .payoutConfirmed := by
  cases performed with
  | rejected => exact has
  | payoutUnreserved _ _ _ _ _ _ _ called =>
      rwa [World.responded_store rfl called] at has
  | payoutAnswered _ record reservation outcome between found state reserved called =>
      refine has_of_put has (World.responded_store rfl called) ?_
      have denied := silent record reservation found state reserved
      cases outcome with
      | confirmed => exact absurd (congrArg Prod.fst called) denied
      | failed => exact (by decide : SettlementState.payoutFailed ≠ .payoutConfirmed)
  | payoutRejected _ _ _ _ _ _ _ _ called =>
      exact has_of_put has (World.responded_store rfl called) nofun
  | payoutTimedOut _ _ _ _ _ _ _ called =>
      exact has_of_put has (World.responded_store rfl called) nofun

theorem reconcile_silent {reconciled id : SettlementId}
    (performed : Performed daemon world (.reconcileUnknownPayout reconciled) answer after)
    (silent : RailSilentOn world (.reconcileUnknownPayout reconciled))
    (has : after.store.Has id .payoutConfirmed) : world.store.Has id .payoutConfirmed := by
  cases performed with
  | rejected => exact has
  | reconcileFailed _ _ _ _ _ _ called => rwa [World.responded_store rfl called] at has
  | stillUnknown _ _ _ _ _ called => rwa [World.responded_store rfl called] at has
  | reconciled _ record outcome between found state called =>
      refine has_of_put has (World.responded_store rfl called) ?_
      have denied := silent record found state
      cases outcome with
      | confirmed => exact absurd (congrArg Prod.fst called) denied
      | failed => exact (by decide : SettlementState.payoutFailed ≠ .payoutConfirmed)

/-- While the own rail is silent, only an attestation confirms a payout. -/
theorem confirmed_origin (performed : Performed daemon world operation answer after)
    (fresh : ∀ id, operation.draws = some id → world.store.get id = none)
    (silent : RailSilentOn world operation)
    {id : SettlementId} (has : after.store.Has id .payoutConfirmed) :
    world.store.Has id .payoutConfirmed ∨
      ∃ attestation, operation = .applyPayoutAttestation attestation ∧
        attestation.settlementId = id ∧ attestation.status = .confirmed ∧
        daemon.toNode.authorize attestation = .ok () := by
  rcases performed.writes fresh with same | ⟨record, stored, writes⟩
  · rw [same] at has
    exact .inl has
  · have old : record.state ≠ .payoutConfirmed → world.store.Has id .payoutConfirmed := by
      intro differs
      rw [stored] at has
      exact has_of_put has rfl differs
    generalize read : world.store.get record.id = before at writes
    cases writes with
    | answered => exact .inl (requestPayout_silent performed silent has)
    | reconciled => exact .inl (reconcile_silent performed silent has)
    | applied attestation record same authorized state =>
        rw [stored, SettlementStore.has_put_iff] at has
        split at has
        · rename_i here
          refine .inr ⟨attestation, rfl, (here.trans same).symm, ?_, authorized⟩
          cases status : attestation.status with
          | confirmed => rfl
          | failed =>
              rw [status] at has
              cases has
        · exact .inl has
    | recorded attestation record same authorized agrees =>
        rw [stored, SettlementStore.has_put_iff] at has
        split at has
        · rename_i here
          exact .inl ⟨record, by rw [here]; exact read, has⟩
        · exact .inl has
    | _ => exact .inl (old nofun)

/-- A release needs the word of the peer before it. -/
def LogEntry.NeedsWord (peer : secp.PublicKey) : LogEntry → List LogEntry → Prop
  | .called (.release id) _ _, log => ConfirmedBy peer id log
  | _, _ => True

theorem LogEntry.NeedsWord.append {peer : secp.PublicKey} {entry : LogEntry}
    {log : List LogEntry} (met : entry.NeedsWord peer log) (more : List LogEntry) :
    entry.NeedsWord peer (more ++ log) := by
  cases entry with
  | called call answer stored =>
      cases call with
      | release id => exact ConfirmedBy.append met more
      | _ => trivial
  | _ => trivial

/-- Confirmed settlements have the word of the peer in the log, and each release had it
before it. -/
structure WordKept (peer : secp.PublicKey) (world : World Adapter Lightning) : Prop where
  confirmed : ∀ id, world.store.Has id .payoutConfirmed → ConfirmedBy peer id world.log
  gated : Gated (LogEntry.NeedsWord peer) world.log

theorem wordKept {peer : secp.PublicKey} (configured : daemon.peerIdentity = some peer)
    (reached : (daemon.operating surroundings).ReachableBy RailSilent world) :
    WordKept peer world := by
  refine reached.invariant (WordKept peer) ?_ ?_
  · intro world initial
    refine ⟨?_, ?_⟩
    · rintro id ⟨record, found, -⟩
      rw [initial.1] at found
      cases found
    · rw [initial.2.1]
      exact .nil _
  · intro world action next _ kept silent step
    rcases operating_step step with ⟨operation, answer, after, rfl, fresh, performed, rfl⟩ |
      ⟨-, store, log⟩
    · have explained := performed.explained
      refine ⟨?_, ?_⟩
      · intro id has
        obtain ⟨entries, grown, -⟩ := explained
        have before : world.store.Has id .payoutConfirmed →
            ConfirmedBy peer id (daemon.evidence operation answer world ++ after.log) := by
          intro has
          rw [grown]
          exact ((kept.confirmed id has).append entries).append _
        rcases confirmed_origin performed fresh silent has with old |
          ⟨attestation, rfl, same, status, authorized⟩
        · exact before old
        · rcases apply_answer performed with rfl | rfl
          · exact before has
          · obtain ⟨verified, signed⟩ := Node.authorize_ok authorized
            exact ⟨attestation, List.mem_append_left _ List.mem_cons_self, same, status,
              verified, signed peer configured⟩
      · refine kept.gated.grew (fun _ _ more met => met.append more) ?_
        refine (explained.mono ?_).trans ⟨_, rfl, ?_⟩
        · intro entry explained
          cases entry with
          | called call answer stored =>
              cases call with
              | release id => exact kept.confirmed id explained.2.1
              | _ => trivial
          | _ => trivial
        · intro entry noted
          obtain ⟨attestation, rfl | ⟨stored, rfl⟩⟩ := Daemon.evidence_entry noted <;> trivial
    · refine ⟨?_, ?_⟩
      · intro id has
        rw [store] at has
        rw [log]
        exact kept.confirmed id has
      · rw [log]
        exact kept.gated

/-- **While the own rail is silent, the backend releases a settlement only after an
attestation was applied by which the configured peer confirms it.** -/
theorem release_gated {peer : secp.PublicKey} (configured : daemon.peerIdentity = some peer)
    (reached : (daemon.operating surroundings).ReachableBy RailSilent world)
    {later earlier : List LogEntry} {id : SettlementId}
    {answer : NodeAnswer (.release id)} {stored : Option SettlementState}
    (released : world.log = later ++ .called (.release id) answer stored :: earlier) :
    ConfirmedBy peer id earlier :=
  (wordKept configured reached).gated later _ earlier released

/-- The peer confirms the first settlement, and it is released. -/
def releasedOnWord : List (NodeAction Surroundings.scripted.Event) :=
  firstSettlement ++ [.perform (.applyPayoutAttestation (peerSays .confirmed)),
    .perform (.releaseSettlement firstId)]

/-- A settlement that is released on the word of the peer. -/
theorem release_gated_word : ∃ (world : World ScriptedAdapter ScriptedLightning)
    (earlier : List LogEntry),
    world.log = [] ++ .called (.release firstId) (.ok ⟨[]⟩) (some .payoutConfirmed) :: earlier ∧
      ConfirmedBy peerKey firstId earlier := by
  obtain ⟨world, earlier, ran, log⟩ : ∃ world earlier,
      (payer.operating .scripted).run idlePayer releasedOnWord = some world ∧
      world.log = [] ++ .called (.release firstId) (.ok ⟨[]⟩) (some .payoutConfirmed) :: earlier :=
    ⟨_, _, rfl, rfl⟩
  have met : (payer.operating .scripted).StepsMeet RailSilent idlePayer releasedOnWord :=
    ⟨trivial, fun _ _ => ⟨trivial, fun _ _ => ⟨trivial, fun _ _ => ⟨trivial, fun _ _ => trivial⟩⟩⟩⟩
  exact ⟨world, earlier, log, release_gated rfl
    (reachableBy_of_run (.start ⟨rfl, rfl, trivial⟩) met ran) log⟩

/-- The payer requests the payout of its own rail, which confirms it, and releases the
settlement without a word of its peer. -/
theorem released_without_evidence : payer.peerIdentity = some peerKey ∧
    ¬∀ world, (payer.operating .scripted).Reachable world →
      ∀ later earlier id answer stored,
        world.log = later ++ .called (.release id) answer stored :: earlier →
        ConfirmedBy peerKey id earlier := by
  refine ⟨rfl, ?_⟩
  intro gated
  obtain ⟨world, ran, log⟩ : ∃ world, (payer.operating .scripted).run idlePayer
      (firstSettlement ++ [.perform (.requestPayout firstId),
        .perform (.releaseSettlement firstId)]) = some world ∧
      world.log = [] ++ [.called (.release firstId) (.ok ⟨[]⟩) (some .payoutConfirmed),
        .called (.initiatePayout 0 "" firstId.toText) (.ok .confirmed) none,
        .called (.acceptSettlementInvoice firstId 7 ⟨"lnbc"⟩) (.ok ()) (some .quoted),
        .called (.reserve ⟨.ngn, 5⟩) (.ok 0) none] := ⟨_, rfl, rfl⟩
  obtain ⟨attestation, member, -⟩ :=
    gated world (reachable_of_run ⟨rfl, rfl, trivial⟩ ran) _ _ _ _ _ log
  simp at member

end Evidence

end Safrod.Legacy

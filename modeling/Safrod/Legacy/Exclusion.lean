import Safrod.Legacy.Runs

/-!
# What reaches the Lightning backend

`LogEntry.Explained` says why an operation called the backend and what the store has of it
afterwards. Along a run this gives that no settlement is both released and refunded
(`settles_exclusively`), and it is what the results on evidence start from.
-/

set_option autoImplicit false

namespace Safrod.Legacy

open Machine

/-- The settlement is stored in a state. -/
def SettlementStore.Has (store : SettlementStore) (id : SettlementId) (state : SettlementState) :
    Prop := ∃ record, store.get id = some record ∧ record.state = state

/-- A settlement in a terminal state stays in it. -/
theorem SettlementStore.Has.later {earlier later : SettlementStore} {id : SettlementId}
    {state : SettlementState} (has : earlier.Has id state) (terminal : state.isTerminal = true)
    (after : earlier.Later later) : later.Has id state := by
  obtain ⟨old, found, rfl⟩ := has
  obtain ⟨new, newFound, later⟩ := after id old found
  exact ⟨new, newFound, later.terminal terminal⟩

theorem SettlementStore.has_put (store : SettlementStore) (record : SettlementRecord) :
    (store.put record).Has record.id record.state := ⟨record, get_put_self store record, rfl⟩

theorem SettlementStore.has_put_iff {store : SettlementStore} {record : SettlementRecord}
    {id : SettlementId} {state : SettlementState} :
    (store.put record).Has id state ↔
      if id = record.id then record.state = state else store.Has id state := by
  rw [Has, get_put]
  split
  · simp only [Option.some.injEq, exists_eq_left']
  · exact Iff.rfl

theorem SettlementStore.has_iff {store : SettlementStore} {record : SettlementRecord}
    {id : SettlementId} (found : store.get id = some record) {state : SettlementState} :
    store.Has id state ↔ record.state = state := by
  rw [Has, found]
  simp only [Option.some.injEq, exists_eq_left']

/-- The settlement whose record is written. -/
theorem has_putRecord {Adapter Lightning : Type} (world : World Adapter Lightning)
    {record : SettlementRecord} {id : SettlementId} (same : record.id = id)
    {state : SettlementState} :
    (world.putRecord record).store.Has id state ↔ record.state = state :=
  SettlementStore.has_put_iff.trans (iff_of_eq (if_pos same.symm))

theorem SettlementStore.Has.unique {store : SettlementStore} {id : SettlementId}
    {first second : SettlementState} (has : store.Has id first) (other : store.Has id second) :
    first = second := by
  obtain ⟨record, found, rfl⟩ := has
  obtain ⟨same, sameFound, rfl⟩ := other
  rw [found] at sameFound
  cases sameFound
  rfl

/-- The log grew by entries of which something holds. -/
def Grew (earlier later : List LogEntry) (holds : LogEntry → Prop) : Prop :=
  ∃ entries, later = entries ++ earlier ∧ ∀ entry ∈ entries, holds entry

namespace Grew

variable {first second third : List LogEntry} {holds : LogEntry → Prop}

theorem refl (log : List LogEntry) : Grew log log holds := ⟨[], rfl, by rintro entry ⟨⟩⟩

theorem single {entry : LogEntry} (held : holds entry) (grew : second = entry :: first) :
    Grew first second holds := by
  refine ⟨[entry], grew, ?_⟩
  intro other member
  cases List.mem_singleton.mp member
  exact held

theorem trans (before : Grew first second holds) (after : Grew second third holds) :
    Grew first third holds := by
  obtain ⟨entries, rfl, held⟩ := before
  obtain ⟨more, rfl, heldMore⟩ := after
  refine ⟨more ++ entries, (List.append_assoc more entries first).symm, ?_⟩
  intro entry member
  rcases List.mem_append.mp member with newer | older
  · exact heldMore entry newer
  · exact held entry older

theorem mono {weaker : LogEntry → Prop} (grew : Grew first second holds)
    (weakens : ∀ entry, holds entry → weaker entry) : Grew first second weaker := by
  obtain ⟨entries, same, held⟩ := grew
  exact ⟨entries, same, fun entry member => weakens entry (held entry member)⟩

theorem mem {entry : LogEntry} (grew : Grew first second holds) (member : entry ∈ second) :
    holds entry ∨ entry ∈ first := by
  obtain ⟨entries, rfl, held⟩ := grew
  exact (List.mem_append.mp member).imp (held entry) id

end Grew

/-- The call settles. -/
def NodeCall.settles : NodeCall → Bool
  | .release _ | .refund _ => true
  | _ => false

/-- Why an operation called the backend to settle, and what is stored when it succeeded. -/
def LogEntry.Explained (operation : Operation) (before after : SettlementStore) :
    LogEntry → Prop
  | .called (.release id) answer stored =>
      operation = .releaseSettlement id ∧ before.Has id .payoutConfirmed ∧
        stored = some .payoutConfirmed ∧
        ∀ preimage, answer = .ok preimage → after.Has id .settlementReleased
  | .called (.refund id) answer stored =>
      operation = .refundSettlement id ∧ before.Has id .payoutFailed ∧
        stored = some .payoutFailed ∧ (answer = .ok () → after.Has id .refunded)
  | .called _ _ _ => True
  | _ => False

section Calls

variable {secp : Secp} {Adapter Lightning : Type} [FiatAdapter Adapter]
  [LightningSettlement Lightning] {daemon : Daemon secp} {operation : Operation}
  {world after : World Adapter Lightning}

/-- A call that does not settle explains itself. -/
theorem grew_quiet {call : NodeCall} {answer : NodeAnswer call} {before store : SettlementStore}
    (external : call.isExternal = true) (quiet : call.settles = false)
    (called : World.respond call world = (answer, after)) {log : List LogEntry}
    (kept : log = after.log) : Grew world.log log (LogEntry.Explained operation before store) := by
  refine .single ?_ (kept.trans (World.responded_log external called))
  cases call with
  | release | refund => cases quiet
  | _ => trivial

theorem Accepted.grew {records : List SettlementRecord} {answer : Except NodeError Unit}
    {before store : SettlementStore} (accepted : Accepted records world answer after) :
    Grew world.log after.log (LogEntry.Explained operation before store) := by
  induction accepted with
  | nil => exact .refl _
  | skipped _ _ _ _ _ _ _ ih => exact ih
  | refused _ _ _ _ _ _ _ _ called => exact grew_quiet rfl rfl called rfl
  | accepted _ _ _ _ _ _ _ _ _ called _ ih => exact (grew_quiet rfl rfl called rfl).trans ih

/-- The calls of an operation are explained. -/
theorem Performed.explained {answer : Except NodeError Reply}
    (performed : Performed daemon world operation answer after) :
    Grew world.log after.log (LogEntry.Explained operation world.store after.store) := by
  cases performed with
  | rejected | begun | begunFromQuote | applied | marked | conflicted | recorded => exact .refl _
  | attachUnreserved _ _ _ _ _ _ _ _ _ called => exact grew_quiet rfl rfl called rfl
  | attachRefused _ _ _ _ _ _ _ _ _ _ _ called refused =>
      exact (grew_quiet rfl rfl called rfl).trans (grew_quiet rfl rfl refused rfl)
  | attached _ _ _ _ _ _ _ _ _ _ called accepted =>
      exact (grew_quiet rfl rfl called rfl).trans (grew_quiet rfl rfl accepted rfl)
  | invoiceRefused _ _ _ _ called => exact grew_quiet rfl rfl called rfl
  | invoiceCreated _ _ _ _ called => exact grew_quiet rfl rfl called rfl
  | prepareUnreserved _ _ _ _ _ _ _ _ _ _ _ called => exact grew_quiet rfl rfl called rfl
  | prepareRefused _ _ _ _ _ _ _ _ _ _ _ _ _ called refused =>
      exact (grew_quiet rfl rfl called rfl).trans (grew_quiet rfl rfl refused rfl)
  | prepared _ _ _ _ _ _ _ _ _ _ _ _ _ called created =>
      exact (grew_quiet rfl rfl called rfl).trans (grew_quiet rfl rfl created rfl)
  | payoutUnreserved _ _ _ _ _ _ _ called => exact grew_quiet rfl rfl called rfl
  | payoutAnswered _ _ _ _ _ _ _ _ called => exact grew_quiet rfl rfl called rfl
  | payoutRejected _ _ _ _ _ _ _ _ called => exact grew_quiet rfl rfl called rfl
  | payoutTimedOut _ _ _ _ _ _ _ called => exact grew_quiet rfl rfl called rfl
  | reconcileFailed _ _ _ _ _ _ called => exact grew_quiet rfl rfl called rfl
  | stillUnknown _ _ _ _ _ called => exact grew_quiet rfl rfl called rfl
  | reconciled _ _ _ _ _ _ called => exact grew_quiet rfl rfl called rfl
  | releaseFailed id record error _ found state called =>
      have logged := World.responded_log rfl called
      refine Grew.single ?_ logged
      refine ⟨rfl, ⟨record, found, state⟩, ?_, ?_⟩
      · exact (congrArg (Option.map _) found).trans (congrArg some state)
      · rintro preimage ⟨⟩
  | released id record preimage between found state called =>
      have logged := World.responded_log rfl called
      refine Grew.single ?_ logged
      refine ⟨rfl, ⟨record, found, state⟩, ?_, ?_⟩
      · exact (congrArg (Option.map _) found).trans (congrArg some state)
      · intro other _
        rw [← SettlementStore.get_id found]
        exact between.store.has_put { record with state := .settlementReleased }
  | refundFailed id record error _ found state called =>
      have logged := World.responded_log rfl called
      refine Grew.single ?_ logged
      refine ⟨rfl, ⟨record, found, state⟩, ?_, ?_⟩
      · exact (congrArg (Option.map _) found).trans (congrArg some state)
      · rintro ⟨⟩
  | refunded id record between found state called =>
      have logged := World.responded_log rfl called
      refine Grew.single ?_ logged
      refine ⟨rfl, ⟨record, found, state⟩, ?_, ?_⟩
      · exact (congrArg (Option.map _) found).trans (congrArg some state)
      · intro _
        rw [← SettlementStore.get_id found]
        exact between.store.has_put { record with state := .refunded }
  | recovered _ _ accepted => exact accepted.grew

theorem Accepted.error {records : List SettlementRecord} {answer : Except NodeError Unit}
    {error : NodeError} (accepted : Accepted records world answer after)
    (failed : answer = .error error) : ∃ refusal, error = .lightning refusal := by
  induction accepted with
  | nil => cases failed
  | skipped _ _ _ _ _ _ _ ih => exact ih failed
  | refused _ _ _ _ _ refusal =>
      cases failed
      exact ⟨refusal, rfl⟩
  | accepted _ _ _ _ _ _ _ _ _ _ _ ih => exact ih failed

/-- An illegal transition is found before anything happened. -/
theorem Performed.illegal {answer : Except NodeError Reply} {error : TransitionError}
    (performed : Performed daemon world operation answer after)
    (failed : answer = .error (.transition error)) : after = world := by
  cases performed with
  | rejected => rfl
  | recovered ended _ accepted =>
      cases ended with
      | ok _ => cases failed
      | error error =>
          obtain ⟨refusal, rfl⟩ := accepted.error rfl
          cases failed
  | _ => cases failed

end Calls

/-! ## Every run -/

/-- What the log says of a call to settle, and what is stored since. -/
def LogEntry.Settled (store : SettlementStore) : LogEntry → Prop
  | .called (.release id) answer stored =>
      stored = some .payoutConfirmed ∧
        ∀ preimage, answer = .ok preimage → store.Has id .settlementReleased
  | .called (.refund id) answer stored =>
      stored = some .payoutFailed ∧ (answer = .ok () → store.Has id .refunded)
  | _ => True

theorem LogEntry.Settled.later {earlier later : SettlementStore} {entry : LogEntry}
    (settled : entry.Settled earlier) (after : earlier.Later later) : entry.Settled later := by
  cases entry with
  | called call answer stored =>
      cases call with
      | release id =>
          exact ⟨settled.1, fun preimage paid => (settled.2 preimage paid).later rfl after⟩
      | refund id => exact ⟨settled.1, fun discarded => (settled.2 discarded).later rfl after⟩
      | _ => trivial
  | _ => trivial

theorem LogEntry.Explained.settled {operation : Operation} {before after : SettlementStore}
    {entry : LogEntry} (explained : entry.Explained operation before after) :
    entry.Settled after := by
  cases entry with
  | called call answer stored =>
      cases call with
      | release id => exact ⟨explained.2.2.1, explained.2.2.2⟩
      | refund id => exact ⟨explained.2.2.1, explained.2.2.2⟩
      | _ => trivial
  | _ => trivial

section Run

variable {secp : Secp} {Adapter Lightning : Type} [FiatAdapter Adapter]
  [LightningSettlement Lightning] {daemon : Daemon secp}
  {surroundings : Surroundings Adapter Lightning} {world : World Adapter Lightning}

theorem log_settled (reached : (daemon.operating surroundings).Reachable world) :
    ∀ entry ∈ world.log, entry.Settled world.store := by
  refine reached.invariant (fun world => ∀ entry ∈ world.log, entry.Settled world.store) ?_ ?_
  · intro world initial entry member
    rw [initial.2.1] at member
    cases member
  · intro world action next _ held step entry member
    have later := step_later step
    rcases operating_step step with ⟨operation, answer, after, -, -, performed, rfl⟩ |
      ⟨-, -, same⟩
    · rcases List.mem_append.mp member with noted | logged
      · obtain ⟨attestation, rfl | ⟨stored, rfl⟩⟩ := Daemon.evidence_entry noted <;> trivial
      · rcases performed.explained.mem logged with explained | old
        · exact explained.settled
        · exact (held entry old).later later
    · rw [same] at member
      exact (held entry member).later later

/-- **The backend releases only what is confirmed and refunds only what failed, no
settlement is both released and refunded, and an illegal operation calls nobody and writes
nothing.** -/
theorem settles_exclusively (reached : (daemon.operating surroundings).Reachable world) :
    (∀ id answer stored, LogEntry.called (.release id) answer stored ∈ world.log →
      stored = some .payoutConfirmed) ∧
    (∀ id answer stored, LogEntry.called (.refund id) answer stored ∈ world.log →
      stored = some .payoutFailed) ∧
    (∀ id preimage before after,
      LogEntry.called (.release id) (.ok preimage) before ∈ world.log →
      LogEntry.called (.refund id) (.ok ()) after ∉ world.log) ∧
    ∀ operation error after,
      daemon.perform operation world = (.error (.transition error), after) → after = world := by
  have settled := log_settled reached
  refine ⟨?_, ?_, ?_, ?_⟩
  · intro id answer stored member
    exact (settled _ member).1
  · intro id answer stored member
    exact (settled _ member).1
  · intro id preimage before after released refunded
    have one := (settled _ released).2 preimage rfl
    have other := (settled _ refunded).2 rfl
    cases one.unique other
  · intro operation error after ended
    have performed := perform_performed daemon world operation
    rw [ended] at performed
    exact performed.illegal rfl

/-- A settlement that is released. -/
theorem settles_exclusively_released : ∃ world : World ScriptedAdapter ScriptedLightning,
    LogEntry.called (.release firstId) (.ok ⟨[]⟩) (some .payoutConfirmed) ∈ world.log ∧
    ∀ id preimage before after,
      LogEntry.called (.release id) (.ok preimage) before ∈ world.log →
      LogEntry.called (.refund id) (.ok ()) after ∉ world.log := by
  obtain ⟨world, ran, called⟩ : ∃ world, (payer.operating .scripted).run idlePayer
      (firstSettlement ++ [.perform (.applyPayoutAttestation (peerSays .confirmed)),
        .perform (.releaseSettlement firstId)]) = some world ∧
      ∃ earlier, world.log =
        .called (.release firstId) (.ok ⟨[]⟩) (some .payoutConfirmed) :: earlier :=
    ⟨_, rfl, _, rfl⟩
  obtain ⟨earlier, log⟩ := called
  refine ⟨world, by rw [log]; exact List.mem_cons_self, ?_⟩
  exact (settles_exclusively (reachable_of_run ⟨rfl, rfl, trivial⟩ ran)).2.2.1

end Run

end Safrod.Legacy

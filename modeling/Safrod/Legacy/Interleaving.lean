import Safrod.Library.Machine
import Safrod.Legacy.Runs
import Safrod.Legacy.Writing

/-!
# Interleaved operations

Handlers run concurrently. An operation reads a record, makes calls, and writes a whole
record; between two of its calls any other operation may take a step. Where a record was
written meanwhile, the write goes over it, and what the other operation stored is lost
(`released_over_dispute`). `interleaved_kept_iff` says which runs lose nothing.
-/

set_option autoImplicit false

namespace Safrod.Legacy

open Machine Program

variable {secp : Secp}

/-! ## Concurrent operations -/

/-- An operation that runs, and the record it read last. -/
structure NodeThread where
  operation : Operation
  program : Program NodeCall NodeAnswer (Except NodeError Reply)
  read : Option SettlementRecord

structure Concurrent where
  store : SettlementStore := .empty
  threads : ℕ → Option NodeThread := fun _ => none

inductive ConcurrentAction where
  | start (slot : ℕ) (operation : Operation)
  /-- The operation makes its next call, or ends. A call that leaves the node is answered as
  the surroundings choose. -/
  | advance (slot : ℕ) (answers : (call : NodeCall) → NodeAnswer call)

/-- The answer to a call. -/
def SettlementStore.answer (store : SettlementStore)
    (answers : (call : NodeCall) → NodeAnswer call) : (call : NodeCall) → NodeAnswer call
  | .get id => store.get id
  | .put _ => ()
  | .listPending => store.listPending
  | call => answers call

/-- The store after a call. -/
def SettlementStore.called (store : SettlementStore) : NodeCall → SettlementStore
  | .put record => store.put record
  | _ => store

/-- The record an operation read last. -/
def readAfter (read : Option SettlementRecord) :
    (call : NodeCall) → NodeAnswer call → Option SettlementRecord
  | .get _, answer => answer
  | _, _ => read

def Daemon.interleaving (daemon : Daemon secp) : Machine Concurrent ConcurrentAction where
  initial state := state = {}
  step state
    | .start slot operation =>
        match state.threads slot with
        | some _ => none
        | none =>
            if ∀ id, operation.draws = some id → state.store.get id = none then
              some { state with
                threads := Function.update state.threads slot
                  (some ⟨operation, (daemon.program operation).run, none⟩) }
            else none
    | .advance slot answers =>
        match state.threads slot with
        | none => none
        | some thread =>
            match thread.program with
            | .done _ => some { state with threads := Function.update state.threads slot none }
            | .ask call next => some {
                store := state.store.called call
                threads := Function.update state.threads slot (some { thread with
                  program := next (state.store.answer answers call)
                  read := readAfter thread.read call (state.store.answer answers call) }) }

/-! ## What is not to be lost -/

/-- A record in a terminal state keeps it, and none of its attestations is missing. -/
def SettlementRecord.KeptBy (old new : SettlementRecord) : Prop :=
  (old.state.isTerminal = true → new.state = old.state) ∧
    ∀ attestation ∈ old.attestations, attestation ∈ new.attestations

/-- Every stored record is kept. -/
def SettlementStore.Kept (earlier later : SettlementStore) : Prop :=
  ∀ id old, earlier.get id = some old → ∃ new, later.get id = some new ∧ old.KeptBy new

theorem SettlementStore.Kept.trans {first second third : SettlementStore}
    (before : first.Kept second) (after : second.Kept third) : first.Kept third := by
  intro id old found
  obtain ⟨middle, middleFound, state, attestations⟩ := before id old found
  obtain ⟨new, newFound, newState, newAttestations⟩ := after id middle middleFound
  refine ⟨new, newFound, ?_, fun attestation member =>
    newAttestations attestation (attestations attestation member)⟩
  intro terminal
  have same := state terminal
  rw [← same] at terminal ⊢
  exact newState terminal

theorem SettlementStore.Kept.refl (store : SettlementStore) : store.Kept store :=
  fun _ old found => ⟨old, found, fun _ => rfl, fun _ member => member⟩

theorem SettlementStore.kept_put {store : SettlementStore} {record : SettlementRecord} :
    store.Kept (store.put record) ↔
      ∀ current, store.get record.id = some current → current.KeptBy record := by
  constructor
  · intro kept current found
    obtain ⟨new, newFound, kept⟩ := kept record.id current found
    rw [get_put_self] at newFound
    cases newFound
    exact kept
  · intro kept id old found
    by_cases same : id = record.id
    · subst same
      exact ⟨record, get_put_self store record, kept old found⟩
    · refine ⟨old, ?_, fun _ => rfl, fun _ member => member⟩
      rw [get_put_of_ne store same]
      exact found

/-! ## When a write loses nothing -/

/-- The terminal state an operation itself leads to. -/
def Operation.Finishes : Operation → Option SettlementRecord → SettlementState → Prop
  | .releaseSettlement _, _, state => state = .settlementReleased
  | .refundSettlement _, _, state => state = .refunded
  | .recordPayoutAttestation attestation, some old, state =>
      state = .disputed ∧ ∃ existing ∈ old.attestations, existing.status ≠ attestation.status
  | _, _, _ => False

/-- What is stored has no attestation that the operation did not read, its own apart, and no
terminal state that it neither read nor leads to itself. -/
structure UpToDate (operation : Operation) (read : Option SettlementRecord)
    (current : SettlementRecord) : Prop where
  attestations : ∀ attestation ∈ current.attestations,
    (∃ old, read = some old ∧ attestation ∈ old.attestations) ∨
      operation.brings = some attestation
  state : current.state.isTerminal = true →
    (∃ old, read = some old ∧ old.state = current.state) ∨
      operation.Finishes read current.state

/-- What was read is still stored. -/
theorem UpToDate.of_read {operation : Operation} {current : SettlementRecord} :
    UpToDate operation (some current) current :=
  ⟨fun _ member => .inl ⟨current, rfl, member⟩, fun _ => .inl ⟨current, rfl, rfl⟩⟩

section Writes

variable {daemon : Daemon secp} {operation : Operation} {read : Option SettlementRecord}
  {new : SettlementRecord}

/-- The attestations of a written record. -/
theorem Writes.mem_attestations (writes : Writes daemon operation read new)
    (attestation : PayoutAttestation) : attestation ∈ new.attestations ↔
      (∃ old, read = some old ∧ attestation ∈ old.attestations) ∨
        operation.brings = some attestation := by
  cases writes <;>
    simp [Operation.brings, begunRecord, preparedRecord, eq_comm]

/-- A written record is in a terminal state that was stored exactly when that was read, or
the operation leads there. -/
theorem Writes.terminal_iff (writes : Writes daemon operation read new)
    {state : SettlementState} (terminal : state.isTerminal = true) :
    new.state = state ↔ (∃ old, read = some old ∧ old.state = state) ∨
      operation.Finishes read state := by
  have open_ : ∀ old : SettlementRecord, old.state.isTerminal = false → old.state ≠ state := by
    intro old notTerminal same
    rw [same, terminal] at notTerminal
    cases notTerminal
  -- Neither what was read nor what is written is terminal.
  have neither : ∀ old : SettlementRecord, old.state.isTerminal = false →
      new.state.isTerminal = false → (∀ target, ¬operation.Finishes (some old) target) →
      (new.state = state ↔ (∃ was, some old = some was ∧ was.state = state) ∨
        operation.Finishes (some old) state) := by
    intro old oldOpen newOpen finishes
    refine iff_of_false (open_ new newOpen) ?_
    rintro (⟨was, ⟨⟩, same⟩ | finished)
    · exact open_ old oldOpen same
    · exact finishes state finished
  cases writes with
  | begun | begunFromQuote | prepared =>
      refine iff_of_false (open_ _ rfl) ?_
      rintro (⟨_, ⟨⟩, -⟩ | finished)
      exact finished
  | attached now id invoice record reservation same was =>
      exact neither record (by rw [was]; rfl) rfl nofun
  | answered id record outcome same was =>
      exact neither record (by rw [was]; rfl) (by cases outcome <;> rfl) nofun
  | timedOut id record same was => exact neither record (by rw [was]; rfl) rfl nofun
  | applied attestation record same authorized was =>
      refine neither record ?_ (by cases attestation.status <;> rfl) nofun
      rcases was with was | was <;> rw [was] <;> rfl
  | marked id record same was => exact neither record (by rw [was]; rfl) rfl nofun
  | reconciled id record outcome same was =>
      exact neither record (by rw [was]; rfl) (by cases outcome <;> rfl) nofun
  | released id record same was =>
      constructor
      · intro finished
        exact .inr finished.symm
      · rintro (⟨_, ⟨⟩, same⟩ | finished)
        · exact absurd same (open_ record (by rw [was]; rfl))
        · exact finished.symm
  | refunded id record same was =>
      constructor
      · intro finished
        exact .inr finished.symm
      · rintro (⟨_, ⟨⟩, same⟩ | finished)
        · exact absurd same (open_ record (by rw [was]; rfl))
        · exact finished.symm
  | conflicted attestation record same authorized conflicts was =>
      constructor
      · intro finished
        exact .inr ⟨finished.symm, conflicts⟩
      · rintro (⟨_, ⟨⟩, same⟩ | finished)
        · exact absurd same (open_ record (SettlementState.open_of_mayDispute was))
        · exact finished.1.symm
  | recorded attestation record same authorized agrees =>
      constructor
      · intro stays
        exact .inl ⟨record, rfl, stays⟩
      · rintro (⟨_, ⟨⟩, same⟩ | ⟨-, existing, member, differs⟩)
        · exact same
        · exact absurd (agrees existing member) differs

theorem Writes.keptBy_iff (writes : Writes daemon operation read new)
    {current : SettlementRecord} : current.KeptBy new ↔ UpToDate operation read current := by
  constructor
  · rintro ⟨state, attestations⟩
    refine ⟨?_, ?_⟩
    · intro attestation member
      exact (writes.mem_attestations attestation).mp (attestations attestation member)
    · intro terminal
      exact (writes.terminal_iff terminal).mp (state terminal)
  · rintro ⟨attestations, state⟩
    refine ⟨?_, ?_⟩
    · intro terminal
      exact (writes.terminal_iff terminal).mpr (state terminal)
    · intro attestation member
      exact (writes.mem_attestations attestation).mpr (attestations attestation member)

end Writes

/-! ## Every run -/

section Run

variable {daemon : Daemon secp} {state next : Concurrent} {action : ConcurrentAction}

/-- The operation has ended, or goes on to write only what it may. -/
def NodeThread.Follows (daemon : Daemon secp) (thread : NodeThread) : Prop :=
  (∃ result, thread.program = .done result) ∨
    thread.program.Follows (writing daemon thread.operation)
      (fun _ result => ∀ value, result = .ok value → True) (.read thread.read)

/-- It does so after a call. -/
theorem NodeThread.Follows.asked {thread : NodeThread} (follows : thread.Follows daemon)
    {call : NodeCall}
    {rest : NodeAnswer call → Program NodeCall NodeAnswer (Except NodeError Reply)}
    (asked : thread.program = .ask call rest) (store : SettlementStore)
    (answers : (call : NodeCall) → NodeAnswer call) :
    NodeThread.Follows daemon { thread with
      program := rest (store.answer answers call)
      read := readAfter thread.read call (store.answer answers call) } := by
  rcases follows with ⟨result, ended⟩ | follows
  · rw [asked] at ended
    cases ended
  · rw [asked] at follows
    cases call with
    | get id =>
        refine .inr (follows.2 _ _ ⟨rfl, ?_⟩)
        intro record found
        exact SettlementStore.get_id found
    | put record => exact .inl (ended_of_written (follows.2 () .written rfl))
    | _ => exact .inr (follows.2 _ _ rfl)

def Concurrent.Follows (daemon : Daemon secp) (state : Concurrent) : Prop :=
  ∀ slot thread, state.threads slot = some thread → thread.Follows daemon

/-- One thread is replaced. -/
theorem Concurrent.Follows.update (held : state.Follows daemon) (store : SettlementStore)
    (slot : ℕ) {thread : Option NodeThread}
    (follows : ∀ running, thread = some running → running.Follows daemon) :
    Concurrent.Follows daemon ⟨store, Function.update state.threads slot thread⟩ := by
  intro other running found
  have updated : Function.update state.threads slot thread other = some running := found
  by_cases here : other = slot
  · rw [here, Function.update_self] at updated
    exact follows running updated
  · rw [Function.update_of_ne here] at updated
    exact held other running updated

theorem concurrent_follows (reached : daemon.interleaving.Reachable state) :
    state.Follows daemon := by
  refine reached.invariant (Concurrent.Follows daemon) ?_ ?_
  · rintro state rfl slot thread ⟨⟩
  · intro state action next _ held step
    cases action with
    | start slot operation =>
        simp only [Daemon.interleaving] at step
        split at step
        · cases step
        · split at step
          · cases step
            refine held.update _ slot ?_
            rintro running ⟨⟩
            exact .inr (program_writes daemon operation)
          · cases step
    | advance slot answers =>
        simp only [Daemon.interleaving] at step
        split at step
        · cases step
        · rename_i current found
          split at step
          · cases step
            refine held.update _ slot ?_
            rintro running ⟨⟩
          · rename_i call rest asked
            cases step
            refine held.update _ slot ?_
            rintro running ⟨⟩
            exact (held slot current found).asked asked state.store answers

/-- An operation that is about to write over a stored record read what it must not lose. -/
def WritesUpToDate (state : Concurrent) : ConcurrentAction → Prop
  | .start _ _ => True
  | .advance slot _ => ∀ thread record next current, state.threads slot = some thread →
      thread.program = .ask (.put record) next → state.store.get record.id = some current →
      UpToDate thread.operation thread.read current

/-- A step keeps the stored records exactly when it does not write over what its operation
did not read. -/
theorem interleaving_kept (reached : daemon.interleaving.Reachable state)
    (step : daemon.interleaving.step state action = some next) :
    state.store.Kept next.store ↔ WritesUpToDate state action := by
  cases action with
  | start started operation =>
      simp only [Daemon.interleaving] at step
      split at step
      · cases step
      · split at step <;> cases step
        exact iff_of_true (.refl _) trivial
  | advance advanced answers =>
      simp only [Daemon.interleaving] at step
      split at step
      · cases step
      · rename_i thread found
        split at step
        · rename_i value ended
          cases step
          refine iff_of_true (.refl _) ?_
          intro other record rest current running asked
          cases found.symm.trans running
          cases ended.symm.trans asked
        · rename_i call rest asked
          cases step
          cases call with
          | put record =>
              have writes : Writes daemon thread.operation thread.read record := by
                rcases concurrent_follows reached advanced thread found with ⟨_, ended⟩ | follows
                · cases asked.symm.trans ended
                · rw [asked] at follows
                  exact follows.1
              refine SettlementStore.kept_put.trans ?_
              constructor
              · intro kept other written rest current running asks stored
                cases found.symm.trans running
                cases asked.symm.trans asks
                exact writes.keptBy_iff.mp (kept current stored)
              · intro met current stored
                exact writes.keptBy_iff.mpr (met thread record rest current found asked stored)
          | _ =>
              refine iff_of_true (.refl _) ?_
              intro other record rest current running asks
              cases found.symm.trans running
              cases asked.symm.trans asks

/-- **In a run of interleaved operations every record in a terminal state keeps it and no
stored attestation is lost, exactly when no operation writes over an attestation or a
terminal state that it did not read.** -/
theorem interleaved_kept_iff {start last : Concurrent}
    (initial : daemon.interleaving.initial start) {actions : List ConcurrentAction}
    (ran : daemon.interleaving.run start actions = some last) :
    (daemon.interleaving.visited start actions).Pairwise
        (fun earlier later => earlier.store.Kept later.store) ↔
      daemon.interleaving.StepsMeet WritesUpToDate start actions := by
  let kept : Concurrent → Concurrent → Prop := fun earlier later => earlier.store.Kept later.store
  have chain := isChain_visited_iff_stepsMeet kept WritesUpToDate
    (fun _ _ _ reached step => interleaving_kept reached step) (.start initial) ran
  have : Trans kept kept kept := ⟨SettlementStore.Kept.trans⟩
  rw [← chain, List.isChain_iff_pairwise]

end Run

/-- Surroundings that refuse nothing. -/
def obligingAnswers : (call : NodeCall) → NodeAnswer call
  | .get _ => none
  | .put _ => ()
  | .listPending => []
  | .reserve _ => .ok 0
  | .initiatePayout _ _ _ => .ok .confirmed
  | .queryPayout _ => .ok (some .confirmed)
  | .createSettlementInvoice _ _ => .ok ⟨"lnbc"⟩
  | .acceptSettlementInvoice _ _ _ => .ok ()
  | .release _ => .ok ⟨[]⟩
  | .refund _ => .ok ()

/-- An operation takes some steps in a slot. -/
def stepping (slot steps : ℕ) (operation : Operation) : List ConcurrentAction :=
  .start slot operation :: List.replicate steps (.advance slot obligingAnswers)

/-- A settlement whose payout the peer has confirmed. -/
def confirmedActions : List ConcurrentAction :=
  stepping 0 2 (.beginSettlement firstId ⟨.ngn, 5⟩ 7 "peer" none) ++
    stepping 0 5 (.attachCounterpartyInvoice none firstId ⟨"lnbc"⟩) ++
    stepping 0 3 (.applyPayoutAttestation (peerSays .confirmed))

/-- Its release waits for the backend while another settlement begins, and the peer repeats
itself when it is released. -/
def releasedActions : List ConcurrentAction :=
  stepping 0 1 (.releaseSettlement firstId) ++
    stepping 1 2 (.beginSettlement ⟨List.replicate 16 1, rfl⟩ ⟨.ngn, 5⟩ 7 "peer" none) ++
    List.replicate 3 (.advance 0 obligingAnswers) ++
    stepping 0 2 (.recordPayoutAttestation (peerSays .confirmed))

theorem interleaved_kept_released : ∃ last,
    payer.interleaving.run {} (confirmedActions ++ releasedActions) = some last ∧
    (∃ record, last.store.get firstId = some record ∧ record.state = .settlementReleased ∧
      record.attestations = [peerSays .confirmed, peerSays .confirmed]) ∧
    (payer.interleaving.visited {} (confirmedActions ++ releasedActions)).Pairwise
      fun earlier later => earlier.store.Kept later.store := by
  have ran : payer.interleaving.run {} (confirmedActions ++ releasedActions) = some _ := rfl
  refine ⟨_, ran, ⟨_, rfl, rfl, rfl⟩, (interleaved_kept_iff rfl ran).mpr (.append ?_ ?_)⟩
  · refine .append (.append ?_ ?_) ?_
    · refine .cons trivial rfl (.cons ?_ rfl (.cons ?_ rfl (.nil _)))
      all_goals rintro thread record next current ⟨⟩ ⟨⟩ ⟨⟩
    · rintro _ ⟨⟩
      refine .cons trivial rfl (.cons ?_ rfl (.cons ?_ rfl (.cons ?_ rfl (.cons ?_ rfl
        (.cons ?_ rfl (.nil _))))))
      all_goals rintro thread record next current ⟨⟩ ⟨⟩ ⟨⟩
      exact .of_read
    · rintro _ ⟨⟩
      refine .cons trivial rfl (.cons ?_ rfl (.cons ?_ rfl (.cons ?_ rfl (.nil _))))
      all_goals rintro thread record next current ⟨⟩ ⟨⟩ ⟨⟩
      exact .of_read
  · rintro _ ⟨⟩
    refine .append (.append (.append ?_ ?_) ?_) ?_
    · refine .cons trivial rfl (.cons ?_ rfl (.nil _))
      rintro thread record next current ⟨⟩ ⟨⟩
    · rintro _ ⟨⟩
      refine .cons trivial rfl (.cons ?_ rfl (.cons ?_ rfl (.nil _)))
      all_goals rintro thread record next current ⟨⟩ ⟨⟩ ⟨⟩
    · rintro _ ⟨⟩
      refine .cons ?_ rfl (.cons ?_ rfl (.cons ?_ rfl (.nil _)))
      all_goals rintro thread record next current ⟨⟩ ⟨⟩ ⟨⟩
      exact .of_read
    · rintro _ ⟨⟩
      refine .cons trivial rfl (.cons ?_ rfl (.cons ?_ rfl (.nil _)))
      all_goals rintro thread record next current ⟨⟩ ⟨⟩ ⟨⟩
      exact .of_read

/-- The peer confirms a settlement, its release begins, and then the peer says that the
payout failed: the settlement is disputed, and the release writes over that. -/
theorem released_over_dispute : ¬∀ earlier later, payer.interleaving.Reachable earlier →
    payer.interleaving.Leads earlier later → earlier.store.Kept later.store := by
  intro kept
  obtain ⟨disputed, released, reached, leads, before, after⟩ :
      ∃ disputed released, payer.interleaving.run {}
        (stepping 0 2 (.beginSettlement firstId ⟨.ngn, 5⟩ 7 "peer" none) ++
          stepping 0 5 (.attachCounterpartyInvoice none firstId ⟨"lnbc"⟩) ++
          stepping 0 3 (.applyPayoutAttestation (peerSays .confirmed)) ++
          stepping 0 1 (.releaseSettlement firstId) ++
          stepping 1 3 (.recordPayoutAttestation (peerSays .failed))) = some disputed ∧
      payer.interleaving.run disputed
        [.advance 0 obligingAnswers, .advance 0 obligingAnswers] = some released ∧
      (∃ record, disputed.store.get firstId = some record ∧ record.state = .disputed ∧
        record.attestations = [peerSays .confirmed, peerSays .failed]) ∧
      ∃ record, released.store.get firstId = some record ∧ record.state = .settlementReleased ∧
        record.attestations = [peerSays .confirmed] :=
    ⟨_, _, rfl, rfl, ⟨_, rfl, rfl, rfl⟩, ⟨_, rfl, rfl, rfl⟩⟩
  obtain ⟨old, oldFound, oldState, -⟩ := before
  obtain ⟨new, newFound, newState, -⟩ := after
  obtain ⟨same, sameFound, stays, -⟩ := kept disputed released
    (reachable_of_run rfl reached) (leads_of_run leads) firstId old oldFound
  cases newFound.symm.trans sameFound
  have still := stays (by rw [oldState]; rfl)
  rw [newState, oldState] at still
  cases still

end Safrod.Legacy

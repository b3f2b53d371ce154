import Safrod.Legacy.Cln
import Safrod.Legacy.Runs
import Safrod.Legacy.Writing

/-!
# Restarts

The store survives the process; the accepted invoices do not. A fresh process gives the
backend the stored invoices again before it does anything else. `restart_releasable` says
that this is enough: wherever a process dies, the recovery after it succeeds, and from then
on each settlement that may still be released has its invoice with the backend.
-/

set_option autoImplicit false

namespace Safrod.Legacy

open Machine Program

variable {secp : Secp} {Adapter Rpc : Type} [FiatAdapter Adapter] [Lightningd Rpc]

/-! ## A process that dies -/

/-- The operations of a payer. -/
def Operation.isSource : Operation → Bool
  | .prepareDestination _ _ _ _ _ _ _ => false
  | _ => true

def Operation.isRecovery : Operation → Bool
  | .recover => true
  | _ => false

/-- A node process over the durable store. -/
structure Process (Adapter Rpc : Type) where
  world : World Adapter (ClnLightningSettlement Rpc)
  /-- The process has not recovered yet. -/
  fresh : Bool := true
  /-- The operations that completed, with what they returned. -/
  ended : List (Operation × Except NodeError Reply) := []

inductive ProcessAction (Adapter Rpc : Type) where
  | perform (operation : Operation)
  /-- The process dies within an operation, after some of its calls, and another starts. -/
  | crash (operation : Operation) (calls : ℕ) (adapter : Adapter) (rpc : Rpc)
  /-- The rail and the Lightning daemon move on. -/
  | happen (adapter : Adapter) (rpc : Rpc)

/-- A fresh process recovers first. -/
def Process.allows (process : Process Adapter Rpc) (operation : Operation) : Prop :=
  operation.isSource = true ∧ (process.fresh = true → operation.isRecovery = true) ∧
    ∀ id, operation.draws = some id → process.world.store.get id = none

instance (process : Process Adapter Rpc) (operation : Operation) :
    Decidable (process.allows operation) :=
  inferInstanceAs (Decidable (_ ∧ _ ∧ _))

def Daemon.process (daemon : Daemon secp) :
    Machine (Process Adapter Rpc) (ProcessAction Adapter Rpc) where
  initial process := process.world.store = .empty ∧
    process.world.lightning.pendingInvoices = (fun _ => none) ∧ process.fresh = true ∧
      process.ended = []
  step process
    | .perform operation =>
        if process.allows operation then
          some {
            world := (daemon.perform operation process.world).2
            fresh := false
            ended := (operation, (daemon.perform operation process.world).1) :: process.ended }
        else none
    | .crash operation calls adapter rpc =>
        if process.allows operation then
          some { process with
            world := { Program.execFor World.respond calls (daemon.program operation).run
                process.world with
              adapter := adapter
              lightning := { rpc := rpc } }
            fresh := true }
        else none
    | .happen adapter rpc => some { process with
        world := { process.world with
          adapter := adapter
          lightning := { process.world.lightning with rpc := rpc } } }

/-! ## Where an operation stops -/

/-- An operation that is cut short has written nothing, or all it writes. -/
theorem execFor_store {Value : Type} {Lightning : Type} [LightningSettlement Lightning]
    {daemon : Daemon secp} {operation : Operation} {ends : Progress → Value → Prop}
    {program : Program NodeCall NodeAnswer Value} {read : Option SettlementRecord}
    (follows : program.Follows (writing daemon operation) ends (.read read)) (calls : ℕ)
    (world : World Adapter Lightning) :
    (program.execFor World.respond calls world).store = world.store ∨
      (program.execFor World.respond calls world).store =
        (program.exec World.respond world).2.store := by
  induction program generalizing read calls world with
  | done value => exact .inl (by rw [execFor_done])
  | ask call next ih =>
      cases calls with
      | zero => exact .inl rfl
      | succ calls =>
          simp only [execFor, exec_ask]
          cases call with
          | get id =>
              refine ih _ (follows.2 _ _ ⟨rfl, ?_⟩) calls world
              intro record found
              exact SettlementStore.get_id found
          | put record =>
              obtain ⟨value, ended⟩ := ended_of_written (follows.2 () .written rfl)
              right
              simp only [World.respond]
              rw [ended, execFor_done, exec_done]
          | listPending => exact ih _ (follows.2 _ _ rfl) calls world
          | _ =>
              rcases ih _ (follows.2 _ _ rfl) calls _ with kept | ended
              · exact .inl (kept.trans (World.respond_store (by rfl) world))
              · exact .inr ended

/-! ## What is durable -/

/-- What holds of every stored record of a payer. -/
structure RecordDurable (Rpc : Type) [Lightningd Rpc] (record : SettlementRecord) : Prop where
  invoiced : record.state ≠ .quoted → record.counterpartyInvoice.isSome = true
  priced : ∀ invoice, record.counterpartyInvoice = some invoice →
    Lightningd.parse Rpc invoice.text = .ok (some record.btcAmount)

theorem RecordDurable.withState {record : SettlementRecord} (durable : RecordDurable Rpc record)
    (old : record.state ≠ .quoted) (state : SettlementState) :
    RecordDurable Rpc { record with state := state } where
  invoiced _ := durable.invoiced old
  priced := durable.priced

section Writes

variable {daemon : Daemon secp} {operation : Operation} {read : Option SettlementRecord}
  {new : SettlementRecord}

/-- Only an attached invoice is new. -/
theorem Writes.durable (writes : Writes daemon operation read new)
    (source : operation.isSource = true)
    (attaches : ∀ now id invoice, operation ≠ .attachCounterpartyInvoice now id invoice)
    (kept : ∀ old, read = some old → RecordDurable Rpc old) : RecordDurable Rpc new := by
  cases writes with
  | begun | begunFromQuote => exact ⟨fun other => absurd rfl other, nofun⟩
  | attached now id invoice => exact absurd rfl (attaches now id invoice)
  | prepared => cases source
  | answered id record outcome same state =>
      exact (kept record rfl).withState (by rw [state]; decide) _
  | timedOut id record same state | marked id record same state | reconciled id record _ same state
  | released id record same state | refunded id record same state =>
      exact (kept record rfl).withState (by rw [state]; decide) _
  | applied attestation record same authorized state =>
      have old : record.state ≠ .quoted := by
        rcases state with state | state <;> rw [state] <;> decide
      have moved := (kept record rfl).withState old attestation.status.state
      exact ⟨moved.invoiced, moved.priced⟩
  | conflicted attestation record same authorized conflicts state =>
      have old : record.state ≠ .quoted := by
        intro quoted
        rw [quoted] at state
        cases state
      have moved := (kept record rfl).withState old .disputed
      exact ⟨moved.invoiced, moved.priced⟩
  | recorded attestation record same authorized agrees =>
      exact ⟨(kept record rfl).invoiced, (kept record rfl).priced⟩

/-- A record that may be released was one before, with the same invoice. -/
theorem Writes.releasable (writes : Writes daemon operation read new)
    (source : operation.isSource = true)
    (attaches : ∀ now id invoice, operation ≠ .attachCounterpartyInvoice now id invoice)
    {invoice : Bolt11Invoice} (has : new.counterpartyInvoice = some invoice)
    (releasable : isReleasable new.state = true) :
    ∃ old, read = some old ∧ old.id = new.id ∧ old.counterpartyInvoice = some invoice ∧
      isReleasable old.state = true := by
  cases writes with
  | begun | begunFromQuote => cases has
  | attached now id invoice => exact absurd rfl (attaches now id invoice)
  | prepared => cases source
  | answered id record outcome same state | timedOut id record same state
  | marked id record same state | reconciled id record outcome same state =>
      exact ⟨record, rfl, rfl, has, by rw [state]; rfl⟩
  | applied attestation record same authorized state =>
      refine ⟨record, rfl, rfl, has, ?_⟩
      rcases state with state | state <;> rw [state] <;> rfl
  | released | refunded | conflicted => cases releasable
  | recorded attestation record same authorized agrees =>
      exact ⟨record, rfl, rfl, has, releasable⟩

end Writes

/-! ## What an operation leaves in store and memory -/

/-- The records of a payer are durable. -/
def Durable (Rpc : Type) [Lightningd Rpc] (store : SettlementStore) : Prop :=
  ∀ record ∈ store.records, RecordDurable Rpc record

theorem Durable.put {store : SettlementStore} {record : SettlementRecord}
    (durable : Durable Rpc store) (own : RecordDurable Rpc record) :
    Durable Rpc (store.put record) := by
  intro other member
  rcases SettlementStore.mem_put.mp member with rfl | ⟨old, -⟩
  · exact own
  · exact durable other old

theorem Durable.get {store : SettlementStore} {id : SettlementId} {record : SettlementRecord}
    (durable : Durable Rpc store) (found : store.get id = some record) :
    RecordDurable Rpc record :=
  durable record (SettlementStore.get_some.mp found).1

/-- The backend has the invoice of every settlement that may be released. -/
def Remembered (store : SettlementStore) (pending : SettlementId → Option Bolt11Invoice) : Prop :=
  ∀ record ∈ store.records, ∀ invoice, record.counterpartyInvoice = some invoice →
    isReleasable record.state = true → pending record.id = some invoice

theorem Remembered.put {store : SettlementStore} {record : SettlementRecord}
    {pending later : SettlementId → Option Bolt11Invoice} (remembered : Remembered store pending)
    (others : ∀ id, id ≠ record.id → later id = pending id)
    (own : ∀ invoice, record.counterpartyInvoice = some invoice →
      isReleasable record.state = true → later record.id = some invoice) :
    Remembered (store.put record) later := by
  intro other member invoice has releasable
  rcases SettlementStore.mem_put.mp member with rfl | ⟨old, differs⟩
  · exact own invoice has releasable
  · rw [others other.id differs]
    exact remembered other old invoice has releasable

/-- The settlement of a confirmed payout has its invoice with the backend, which pays it. -/
theorem release_pays {store : SettlementStore} {lightning : ClnLightningSettlement Rpc}
    (durable : Durable Rpc store) (remembered : Remembered store lightning.pendingInvoices)
    {id : SettlementId} {record : SettlementRecord} (found : store.get id = some record)
    (state : record.state = .payoutConfirmed) :
    ∃ invoice, record.counterpartyInvoice = some invoice ∧
      lightning.release id = lightning.pay id invoice := by
  obtain ⟨member, rfl⟩ := SettlementStore.get_some.mp found
  obtain ⟨invoice, has⟩ := Option.isSome_iff_exists.mp
    ((durable record member).invoiced (by rw [state]; decide))
  refine ⟨invoice, has, ?_⟩
  rw [ClnLightningSettlement.release, remembered record member invoice has (by rw [state]; rfl)]

section Performed

variable {daemon : Daemon secp} {operation : Operation} {answer : Except NodeError Reply}
  {world after : World Adapter (ClnLightningSettlement Rpc)}

/-- The call leaves the accepted invoices. -/
def NodeCall.keepsInvoices : NodeCall → Bool
  | .acceptSettlementInvoice _ _ _ | .release _ | .refund _ => false
  | _ => true

theorem respond_pending {call : NodeCall} {answer : NodeAnswer call}
    (quiet : call.keepsInvoices = true) (called : World.respond call world = (answer, after)) :
    after.lightning.pendingInvoices = world.lightning.pendingInvoices := by
  have same : after = (World.respond call world).2 := (congrArg Prod.snd called).symm
  subst same
  cases call with
  | acceptSettlementInvoice | release | refund => cases quiet
  | _ => rfl

/-- The operation neither accepts nor settles. -/
def Operation.keepsInvoices : Operation → Bool
  | .attachCounterpartyInvoice _ _ _ | .releaseSettlement _ | .refundSettlement _ | .recover =>
      false
  | _ => true

theorem Performed.pending (performed : Performed daemon world operation answer after)
    (quiet : operation.keepsInvoices = true) :
    after.lightning.pendingInvoices = world.lightning.pendingInvoices := by
  cases performed with
  | rejected | begun | begunFromQuote | applied | marked | conflicted | recorded => rfl
  | attachUnreserved | attachRefused | attached | releaseFailed | released | refundFailed
  | refunded | recovered => cases quiet
  | invoiceRefused _ _ _ _ called => exact (respond_pending rfl called :)
  | invoiceCreated _ _ _ _ called => exact (respond_pending rfl called :)
  | prepareUnreserved _ _ _ _ _ _ _ _ _ _ _ called => exact (respond_pending rfl called :)
  | prepareRefused _ _ _ _ _ _ _ _ _ _ _ _ _ called refused =>
      exact ((respond_pending rfl refused).trans (respond_pending rfl called) :)
  | prepared _ _ _ _ _ _ _ _ _ _ _ _ _ called created =>
      exact ((respond_pending rfl created).trans (respond_pending rfl called) :)
  | payoutUnreserved _ _ _ _ _ _ _ called => exact (respond_pending rfl called :)
  | payoutAnswered _ _ _ _ _ _ _ _ called => exact (respond_pending rfl called :)
  | payoutRejected _ _ _ _ _ _ _ _ called => exact (respond_pending rfl called :)
  | payoutTimedOut _ _ _ _ _ _ _ called => exact (respond_pending rfl called :)
  | reconcileFailed _ _ _ _ _ _ called => exact (respond_pending rfl called :)
  | stillUnknown _ _ _ _ _ called => exact (respond_pending rfl called :)
  | reconciled _ _ _ _ _ _ called => exact (respond_pending rfl called :)

/-- An operation that attaches no invoice keeps what is durable. -/
theorem Performed.durable (performed : Performed daemon world operation answer after)
    (fresh : ∀ id, operation.draws = some id → world.store.get id = none)
    (source : operation.isSource = true)
    (attaches : ∀ now id invoice, operation ≠ .attachCounterpartyInvoice now id invoice)
    (durable : Durable Rpc world.store) : Durable Rpc after.store := by
  rcases performed.writes fresh with same | ⟨record, same, writes⟩
  · rw [same]
    exact durable
  · rw [same]
    exact durable.put (writes.durable source attaches fun old found => durable.get found)

/-- An operation that leaves the accepted invoices leaves the backend with those it needs. -/
theorem Performed.remembered (performed : Performed daemon world operation answer after)
    (fresh : ∀ id, operation.draws = some id → world.store.get id = none)
    (source : operation.isSource = true) (quiet : operation.keepsInvoices = true)
    (remembered : Remembered world.store world.lightning.pendingInvoices) :
    Remembered after.store after.lightning.pendingInvoices := by
  have attaches : ∀ now id invoice, operation ≠ .attachCounterpartyInvoice now id invoice := by
    rintro now id invoice rfl
    cases quiet
  rw [performed.pending quiet]
  rcases performed.writes fresh with same | ⟨record, same, writes⟩
  · rw [same]
    exact remembered
  · rw [same]
    refine remembered.put (fun _ _ => rfl) ?_
    intro invoice has releasable
    obtain ⟨old, found, sameId, oldHas, oldReleasable⟩ :=
      writes.releasable source attaches has releasable
    rw [← sameId]
    exact remembered old (SettlementStore.get_some.mp found).1 invoice oldHas oldReleasable

theorem respond_accept {id : SettlementId} {amount : Millisatoshis} {invoice : Bolt11Invoice}
    {answer : Except LightningError Unit}
    (called : World.respond (.acceptSettlementInvoice id amount invoice) world = (answer, after)) :
    (answer = .ok () ∧ Lightningd.parse Rpc invoice.text = .ok (some amount) ∧
      after.lightning.pendingInvoices =
        Function.update world.lightning.pendingInvoices id (some invoice)) ∨
    (∃ error, answer = .error error) ∧
      Lightningd.parse Rpc invoice.text ≠ .ok (some amount) ∧
      after.lightning.pendingInvoices = world.lightning.pendingInvoices := by
  have answered : world.lightning.acceptSettlementInvoice id amount invoice =
      (answer, after.lightning) := by
    have first : (world.lightning.acceptSettlementInvoice id amount invoice).1 = answer :=
      congrArg Prod.fst called
    have second : (world.lightning.acceptSettlementInvoice id amount invoice).2 =
        after.lightning := congrArg (fun answered => answered.2.lightning) called
    rw [← first, ← second]
  by_cases parsed : Lightningd.parse Rpc invoice.text = .ok (some amount)
  · rw [ClnLightningSettlement.accept_ok parsed] at answered
    obtain ⟨rfl, same⟩ := Prod.mk.inj answered
    exact .inl ⟨rfl, parsed, by rw [← same]⟩
  · obtain ⟨error, refused⟩ := ClnLightningSettlement.accept_error id world.lightning parsed
    rw [refused] at answered
    obtain ⟨rfl, same⟩ := Prod.mk.inj answered
    exact .inr ⟨⟨error, rfl⟩, parsed, by rw [← same]⟩

theorem attach_leaves {now : Option ℕ} {id : SettlementId} {invoice : Bolt11Invoice}
    (performed : Performed daemon world (.attachCounterpartyInvoice now id invoice) answer after)
    (durable : Durable Rpc world.store) :
    Durable Rpc after.store ∧ (Remembered world.store world.lightning.pendingInvoices →
      Remembered after.store after.lightning.pendingInvoices) := by
  cases performed with
  | rejected => exact ⟨durable, fun remembered => remembered⟩
  | attachUnreserved _ _ _ _ _ _ _ _ _ called =>
      rw [World.responded_store rfl called, respond_pending rfl called]
      exact ⟨durable, fun remembered => remembered⟩
  | attachRefused _ _ _ _ _ _ _ _ _ _ _ called refused =>
      have store := (World.responded_store rfl refused).trans (World.responded_store rfl called)
      rcases respond_accept refused with ⟨⟨⟩, -⟩ | ⟨-, -, pending⟩
      rw [store, pending, respond_pending rfl called]
      exact ⟨durable, fun remembered => remembered⟩
  | attached _ _ _ record reservation between between' found current state called accepted =>
      have store := (World.responded_store rfl accepted).trans (World.responded_store rfl called)
      rcases respond_accept accepted with ⟨-, parsed, pending⟩ | ⟨⟨_, ⟨⟩⟩, -⟩
      have own : RecordDurable Rpc { record with
          state := .settlementConditionCreated
          sourceReservation := some reservation
          counterpartyInvoice := some invoice } := by
        refine ⟨fun _ => rfl, ?_⟩
        rintro other ⟨⟩
        exact parsed
      have here : record.id = id := SettlementStore.get_id found
      have memory : between'.lightning.pendingInvoices =
          Function.update world.lightning.pendingInvoices id (some invoice) := by
        rw [pending, respond_pending rfl called]
      refine ⟨?_, ?_⟩
      · show Durable Rpc (between'.store.put _)
        rw [store]
        exact durable.put own
      · intro remembered
        show Remembered (between'.store.put _) between'.lightning.pendingInvoices
        rw [store, memory]
        refine remembered.put ?_ ?_
        · intro other differs
          exact Function.update_of_ne (by rw [← here]; exact differs) _ _
        · rintro other ⟨⟩ -
          show Function.update _ id _ record.id = _
          rw [here, Function.update_self]

theorem release_leaves {id : SettlementId}
    (performed : Performed daemon world (.releaseSettlement id) answer after)
    (durable : Durable Rpc world.store)
    (remembered : Remembered world.store world.lightning.pendingInvoices) :
    answer ≠ .error (.lightning .noRecordedInvoice) ∧
      Remembered after.store after.lightning.pendingInvoices := by
  have paid : ∀ {record : SettlementRecord} {answer : Except LightningError PaymentPreimage}
      {later : World Adapter (ClnLightningSettlement Rpc)},
      world.store.get id = some record → record.state = .payoutConfirmed →
      World.respond (.release id) world = (answer, later) →
      (∃ error, answer = .error error ∧ error ≠ .noRecordedInvoice ∧
        later.lightning.pendingInvoices = world.lightning.pendingInvoices) ∨
      ∃ preimage, answer = .ok preimage ∧ later.lightning.pendingInvoices =
        Function.update world.lightning.pendingInvoices id none := by
    intro record answer later found state called
    obtain ⟨invoice, -, pays⟩ := release_pays durable remembered found state
    have first : (world.lightning.release id).1 = answer := congrArg Prod.fst called
    have second : (world.lightning.release id).2 = later.lightning :=
      congrArg (fun answered => answered.2.lightning) called
    rw [pays] at first second
    rw [← first, ← second]
    exact ClnLightningSettlement.pay_pending id invoice world.lightning
  cases performed with
  | rejected _ _ why =>
      refine ⟨?_, remembered⟩
      cases why <;> nofun
  | releaseFailed _ record error _ found state called =>
      rcases paid found state called with ⟨_, ⟨⟩, recorded, pending⟩ | ⟨_, ⟨⟩, -⟩
      refine ⟨?_, ?_⟩
      · rintro ⟨⟩
        exact recorded rfl
      rw [World.responded_store rfl called, pending]
      exact remembered
  | released _ record preimage between found state called =>
      rcases paid found state called with ⟨_, ⟨⟩, -⟩ | ⟨_, -, pending⟩
      have here : record.id = id := SettlementStore.get_id found
      refine ⟨nofun, ?_⟩
      show Remembered (between.store.put _) between.lightning.pendingInvoices
      rw [World.responded_store rfl called, pending]
      refine remembered.put ?_ nofun
      intro other differs
      exact Function.update_of_ne (by rw [← here]; exact differs) _ _

theorem refund_leaves {id : SettlementId}
    (performed : Performed daemon world (.refundSettlement id) answer after)
    (remembered : Remembered world.store world.lightning.pendingInvoices) :
    Remembered after.store after.lightning.pendingInvoices := by
  cases performed with
  | rejected => exact remembered
  | refundFailed _ record error _ found state called =>
      cases (congrArg Prod.fst called : (Except.ok () : Except LightningError Unit) = .error error)
  | refunded _ record between found state called =>
      have here : record.id = id := SettlementStore.get_id found
      have pending : Function.update world.lightning.pendingInvoices id none =
          between.lightning.pendingInvoices :=
        congrArg (fun answered => answered.2.lightning.pendingInvoices) called
      show Remembered (between.store.put _) between.lightning.pendingInvoices
      rw [World.responded_store rfl called, ← pending]
      refine remembered.put ?_ nofun
      intro other differs
      exact Function.update_of_ne (by rw [← here]; exact differs) _ _

/-- Invoices that were accepted are accepted again, and the backend has those of the
records it was given. -/
theorem Accepted.leaves {records : List SettlementRecord} {answer : Except NodeError Unit}
    (accepted : Accepted records world answer after)
    (wanted : SettlementId → Option Bolt11Invoice)
    (listed : ∀ record ∈ records, record.counterpartyInvoice = wanted record.id)
    (durable : ∀ record ∈ records, RecordDurable Rpc record) :
    answer = .ok () ∧
      (∀ id, after.lightning.pendingInvoices id = world.lightning.pendingInvoices id ∨
        after.lightning.pendingInvoices id = wanted id) ∧
      ∀ record ∈ records, ∀ invoice, record.counterpartyInvoice = some invoice →
        isReleasable record.state = true →
        after.lightning.pendingInvoices record.id = some invoice := by
  induction accepted with
  | nil => exact ⟨rfl, fun _ => .inl rfl, by rintro record ⟨⟩⟩
  | skipped record rest world after answer skips later ih =>
      obtain ⟨ended, kept, given⟩ := ih
        (fun other member => listed other (List.mem_cons_of_mem record member))
        (fun other member => durable other (List.mem_cons_of_mem record member))
      refine ⟨ended, kept, ?_⟩
      intro other member invoice has releasable
      rcases List.mem_cons.mp member with rfl | old
      · rcases skips with none | blocked
        · rw [none] at has
          cases has
        · rw [blocked] at releasable
          cases releasable
      · exact given other old invoice has releasable
  | refused record rest world after invoice error stored releasable called =>
      rcases respond_accept called with ⟨⟨⟩, -⟩ | ⟨-, unparsed, -⟩
      exact absurd ((durable record List.mem_cons_self).priced invoice stored) unparsed
  | accepted record rest world between after invoice answer stored releasable called later ih =>
      obtain ⟨ended, kept, given⟩ := ih
        (fun other member => listed other (List.mem_cons_of_mem record member))
        (fun other member => durable other (List.mem_cons_of_mem record member))
      rcases respond_accept called with ⟨-, -, pending⟩ | ⟨⟨_, ⟨⟩⟩, -⟩
      have own := listed record List.mem_cons_self
      rw [pending] at kept
      refine ⟨ended, ?_, ?_⟩
      · intro id
        rcases kept id with same | want
        · by_cases here : id = record.id
          · subst here
            rw [Function.update_self, ← stored, own] at same
            exact .inr same
          · rw [Function.update_of_ne here] at same
            exact .inl same
        · exact .inr want
      · intro other member taken has may
        rcases List.mem_cons.mp member with rfl | old
        · cases stored.symm.trans has
          rcases kept other.id with same | want
          · rw [same, Function.update_self]
          · rw [want, ← own, has]
        · exact given other old taken has may

theorem recover_leaves (performed : Performed daemon world .recover answer after)
    (durable : Durable Rpc world.store) :
    answer = .ok .done ∧ Remembered after.store after.lightning.pendingInvoices := by
  cases performed with
  | rejected _ _ why => cases why
  | recovered ended _ accepted =>
      have stored : ∀ record ∈ world.store.listPending,
          world.store.get record.id = some record :=
        fun record member => (SettlementStore.mem_listPending.mp member).1
      obtain ⟨rfl, -, given⟩ := accepted.leaves
        (fun id => (world.store.get id).bind (·.counterpartyInvoice))
        (fun record member => by rw [stored record member]; rfl)
        (fun record member => durable.get (stored record member))
      refine ⟨rfl, ?_⟩
      intro record member invoice has releasable
      rw [accepted.store] at member
      refine given record (SettlementStore.mem_listPending.mpr ⟨?_, ?_, ?_⟩) invoice has releasable
      · exact SettlementStore.get_some.mpr ⟨member, rfl⟩
      · intro released
        rw [released] at releasable
        cases releasable
      · intro refunded
        rw [refunded] at releasable
        cases releasable

end Performed

/-! ## Every run -/

/-- What a process keeps. -/
structure Process.Sound (process : Process Adapter Rpc) : Prop where
  durable : Durable Rpc process.world.store
  remembered : process.fresh = false →
    Remembered process.world.store process.world.lightning.pendingInvoices
  recovered : ∀ error, (Operation.recover, Except.error error) ∉ process.ended
  released : ∀ id, (Operation.releaseSettlement id,
    Except.error (NodeError.lightning .noRecordedInvoice)) ∉ process.ended

section Sound

variable {daemon : Daemon secp} {process : Process Adapter Rpc} {operation : Operation}
  {answer : Except NodeError Reply} {after : World Adapter (ClnLightningSettlement Rpc)}

/-- A completed operation keeps the records durable, and the backend has their invoices. -/
theorem Process.Sound.leaves (sound : process.Sound) (allowed : process.allows operation)
    (performed : Performed daemon process.world operation answer after) :
    Durable Rpc after.store ∧ Remembered after.store after.lightning.pendingInvoices := by
  obtain ⟨source, recovers, draws⟩ := allowed
  by_cases recovery : operation.isRecovery = true
  · cases operation with
    | recover =>
        refine ⟨performed.durable draws source nofun sound.durable, ?_⟩
        exact (recover_leaves performed sound.durable).2
    | _ => cases recovery
  · have remembered : Remembered process.world.store process.world.lightning.pendingInvoices := by
      refine sound.remembered ?_
      cases fresh : process.fresh with
      | false => rfl
      | true => exact absurd (recovers fresh) recovery
    cases operation with
    | recover => exact absurd rfl recovery
    | attachCounterpartyInvoice now id invoice =>
        obtain ⟨durable, kept⟩ := attach_leaves performed sound.durable
        exact ⟨durable, kept remembered⟩
    | releaseSettlement id =>
        refine ⟨performed.durable draws source nofun sound.durable, ?_⟩
        exact (release_leaves performed sound.durable remembered).2
    | refundSettlement id =>
        exact ⟨performed.durable draws source nofun sound.durable,
          refund_leaves performed remembered⟩
    | _ =>
        exact ⟨performed.durable draws source nofun sound.durable,
          performed.remembered draws source rfl remembered⟩

/-- It recovers, and it releases what has a recorded invoice. -/
theorem Process.Sound.answers (sound : process.Sound) (allowed : process.allows operation)
    (performed : Performed daemon process.world operation answer after) :
    (∀ error, (operation, answer) ≠ (.recover, .error error)) ∧
      ∀ id, (operation, answer) ≠
        (.releaseSettlement id, .error (.lightning .noRecordedInvoice)) := by
  constructor
  · rintro error ⟨⟩
    cases (recover_leaves performed sound.durable).1
  · rintro id ⟨⟩
    have remembered := sound.remembered (by
      cases fresh : process.fresh with
      | false => rfl
      | true => cases allowed.2.1 fresh)
    exact (release_leaves performed sound.durable remembered).1 rfl

/-- A process that dies leaves durable records. -/
theorem Process.Sound.dies (sound : process.Sound) (allowed : process.allows operation)
    (calls : ℕ) :
    Durable Rpc ((daemon.program operation).run.execFor World.respond calls
      process.world).store := by
  rcases execFor_store (program_writes daemon operation) calls process.world with same | ended
  · rw [same]
    exact sound.durable
  · rw [ended]
    exact (sound.leaves allowed (perform_performed daemon process.world operation)).1

theorem Process.sound_of_reachable (reached : daemon.process.Reachable process) :
    process.Sound := by
  refine reached.invariant Process.Sound ?_ ?_
  · rintro process ⟨store, -, fresh, ended⟩
    constructor
    · rw [store]
      rintro record ⟨⟩
    · intro old
      rw [fresh] at old
      cases old
    · rw [ended]
      rintro error ⟨⟩
    · rw [ended]
      rintro id ⟨⟩
  · intro process action next _ sound step
    cases action with
    | perform operation =>
        simp only [Daemon.process] at step
        split at step
        · rename_i allowed
          cases step
          have performed := perform_performed daemon process.world operation
          obtain ⟨durable, remembered⟩ := sound.leaves allowed performed
          obtain ⟨recovers, releases⟩ := sound.answers allowed performed
          refine ⟨durable, fun _ => remembered, ?_, ?_⟩
          · intro error member
            rcases List.mem_cons.mp member with here | old
            · exact recovers error here.symm
            · exact sound.recovered error old
          · intro id member
            rcases List.mem_cons.mp member with here | old
            · exact releases id here.symm
            · exact sound.released id old
        · cases step
    | crash operation calls adapter rpc =>
        simp only [Daemon.process] at step
        split at step
        · rename_i allowed
          cases step
          refine ⟨sound.dies allowed calls, ?_, sound.recovered, sound.released⟩
          intro old
          cases old
        · cases step
    | happen adapter rpc =>
        cases step
        exact ⟨sound.durable, sound.remembered, sound.recovered, sound.released⟩

end Sound

/-- **After a restart every settlement that may be released has its invoice.** In every run of
operations and crashes each recovery succeeds, no release finds its invoice missing, and a
process that has recovered holds exactly the stored invoice of each releasable settlement,
which is the one a release pays. -/
theorem restart_releasable (daemon : Daemon secp) (process : Process Adapter Rpc)
    (reached : daemon.process.Reachable process) :
    (∀ error, (Operation.recover, Except.error error) ∉ process.ended) ∧
    (∀ id, (Operation.releaseSettlement id,
      Except.error (NodeError.lightning .noRecordedInvoice)) ∉ process.ended) ∧
    (process.fresh = false →
      (∀ id record invoice, process.world.store.get id = some record →
        record.counterpartyInvoice = some invoice → isReleasable record.state = true →
        process.world.lightning.pendingInvoices id = some invoice) ∧
      ∀ id record, process.world.store.get id = some record → record.state = .payoutConfirmed →
        ∃ invoice, record.counterpartyInvoice = some invoice ∧
          process.world.lightning.release id = process.world.lightning.pay id invoice) := by
  have sound := Process.sound_of_reachable reached
  refine ⟨sound.recovered, sound.released, ?_⟩
  intro fresh
  have remembered := sound.remembered fresh
  refine ⟨?_, fun id record found state => release_pays sound.durable remembered found state⟩
  intro id record invoice found has releasable
  obtain ⟨member, rfl⟩ := SettlementStore.get_some.mp found
  exact remembered record member invoice has releasable

/-- A Lightning daemon that pays what it is asked, with one preimage. -/
structure PayingLightningd where
  preimage : String

instance : Lightningd PayingLightningd where
  call
    | .invoice _ _ _, rpc => (.ok ⟨fun _ => some "lnbc"⟩, rpc)
    | .pay _, rpc => (.ok ⟨fun _ => some rpc.preimage⟩, rpc)
  parse _ := .ok (some 7)

/-- The process dies after an invoice was attached, and another recovers. -/
def diesAttached : List (ProcessAction ScriptedAdapter PayingLightningd) :=
  [.perform .recover,
    .perform (.beginSettlement firstId ⟨.ngn, 5⟩ 7 "peer" none),
    .perform (.attachCounterpartyInvoice none firstId ⟨"lnbc"⟩),
    .perform (.requestPayout firstId),
    .crash (.releaseSettlement firstId) 1 .obliging ⟨""⟩,
    .perform .recover]

theorem restart_releasable_attached :
    ∃ process : Process ScriptedAdapter PayingLightningd,
      payer.process.run { world := { adapter := .obliging, lightning := { rpc := ⟨""⟩ } } }
        diesAttached = some process ∧
      process.world.lightning.pendingInvoices firstId = some ⟨"lnbc"⟩ ∧
      ∀ error, (Operation.recover, Except.error error) ∉ process.ended := by
  obtain ⟨process, ran, fresh, stored⟩ : ∃ process : Process ScriptedAdapter PayingLightningd,
      payer.process.run { world := { adapter := .obliging, lightning := { rpc := ⟨""⟩ } } }
        diesAttached = some process ∧ process.fresh = false ∧
      ∃ record, process.world.store.get firstId = some record ∧
        record.counterpartyInvoice = some ⟨"lnbc"⟩ ∧ isReleasable record.state = true :=
    ⟨_, rfl, rfl, _, rfl, rfl, rfl⟩
  obtain ⟨record, found, has, releasable⟩ := stored
  have reached : payer.process.Reachable process :=
    reachable_of_run (by exact ⟨rfl, rfl, rfl, rfl⟩) ran
  obtain ⟨recovered, -, settled⟩ := restart_releasable payer process reached
  exact ⟨process, ran, (settled fresh).1 firstId record _ found has releasable, recovered⟩

end Safrod.Legacy

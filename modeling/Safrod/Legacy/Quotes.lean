import Safrod.Legacy.Restart
import Safrod.Legacy.Signatures

/-!
# What a quote binds

A settlement that begins from a quote keeps it, and all that follows is measured by it. The
records of a process are traced to the operations that were tried: the quote of a record was
verified when the settlement began, and its invoice was attached before the quote expired.
The store survives the process, so this holds across crashes, and `quote_binds_payment` says
what it comes to: the payment that releases the settlement is the quoted one.
-/

set_option autoImplicit false

namespace Safrod.Legacy

open Machine

variable {secp : Secp} {Adapter Rpc : Type}

/-! ## Quotes a node takes -/

/-- The quote is the peer's, for this node and the peer, and it has not expired. -/
def Daemon.Accepts (daemon : Daemon secp) (quote : ExecutableQuote) (now : ℕ) : Prop :=
  ∃ peer, daemon.peerIdentity = some peer ∧
    Quote.verify secp daemon.toJson quote peer (secp.publicKey daemon.signingKey) peer now = .ok ()

/-- A record that a quote priced is measured by the quote's expiry. -/
theorem quoteIsExpired_eq_false {now : Option ℕ} {record : SettlementRecord}
    {quote : ExecutableQuote} (current : quoteIsExpired now record = false)
    (has : record.quote = some quote) :
    ∃ seconds, now = some seconds ∧ seconds < quote.terms.expiresAtUnix := by
  simp only [quoteIsExpired, has] at current
  cases now with
  | none => cases current
  | some seconds => exact ⟨seconds, rfl, by simpa [hasReached] using current⟩

/-- What an operation has checked of a quote when it writes. -/
def Checked (daemon : Daemon secp) (read : Option SettlementRecord) : Operation → Prop
  | .beginSettlementFromQuote now _ quote _ => daemon.Accepts quote (now.getD 0)
  | .attachCounterpartyInvoice now _ _ =>
      ∀ record, read = some record → quoteIsExpired now record = false
  | _ => True

section Checked

variable {daemon : Daemon secp} {Lightning : Type} [FiatAdapter Adapter]
  [LightningSettlement Lightning]

/-- A settlement begins from a quote that the node accepts. -/
theorem beginFromQuote_accepts (now : Option ℕ) (id : SettlementId) (quote : ExecutableQuote)
    (counterparty : String) (world : World Adapter Lightning) :
    daemon.Accepts quote (now.getD 0) ∨
      (daemon.perform (.beginSettlementFromQuote now id quote counterparty) world).2 = world := by
  simp only [Daemon.perform, Daemon.program, run_map, Node.beginSettlementFromQuote]
  cases peer : daemon.peerIdentity with
  | none => exact .inr rfl
  | some key =>
      simp only [run_bind]
      cases verified : Quote.verify secp daemon.toJson quote key
          (secp.publicKey daemon.signingKey) key (now.getD 0) with
      | error error => exact .inr rfl
      | ok _ => exact .inl ⟨key, peer, verified⟩

/-- An invoice is attached while the quote of the record holds. -/
theorem attach_current {now : Option ℕ} {id : SettlementId} {invoice : Bolt11Invoice}
    {answer : Except NodeError Reply} {world after : World Adapter Lightning}
    (performed : Performed daemon world (.attachCounterpartyInvoice now id invoice) answer after) :
    after.store = world.store ∨
      ∃ record, world.store.get id = some record ∧ quoteIsExpired now record = false := by
  cases performed with
  | rejected => exact .inl rfl
  | attachUnreserved _ _ _ record _ _ found current => exact .inr ⟨record, found, current⟩
  | attachRefused _ _ _ record _ _ _ _ found current => exact .inr ⟨record, found, current⟩
  | attached _ _ _ record _ _ _ found current => exact .inr ⟨record, found, current⟩

/-- An operation leaves the store, or writes what it may after its checks. -/
theorem perform_checked {operation : Operation} {world : World Adapter Lightning}
    (fresh : ∀ id, operation.draws = some id → world.store.get id = none) :
    (daemon.perform operation world).2.store = world.store ∨
      ∃ record, (daemon.perform operation world).2.store = world.store.put record ∧
        Writes daemon operation (world.store.get record.id) record ∧
        Checked daemon (world.store.get record.id) operation := by
  have performed := perform_performed daemon world operation
  rcases performed.writes fresh with same | ⟨record, stored, writes⟩
  · exact .inl same
  · cases operation with
    | beginSettlementFromQuote now id quote counterparty =>
        rcases beginFromQuote_accepts now id quote counterparty world with accepts | same
        · exact .inr ⟨record, stored, writes, accepts⟩
        · exact .inl (congrArg World.store same)
    | attachCounterpartyInvoice now id invoice =>
        rcases attach_current performed with same | ⟨old, found, current⟩
        · exact .inl same
        · refine .inr ⟨record, stored, writes, ?_⟩
          intro read found'
          have here : record.id = id := by
            generalize world.store.get record.id = before at writes
            cases writes with
            | attached _ _ _ _ _ same => exact same
          rw [here, found] at found'
          cases found'
          exact current
    | _ => exact .inr ⟨record, stored, writes, trivial⟩

end Checked

/-! ## Where a record comes from -/

/-- The operation of a step, completed or not. -/
def ProcessAction.operation : ProcessAction Adapter Rpc → Option Operation
  | .perform operation | .crash operation _ _ _ => some operation
  | .happen _ _ => none

/-- One of the steps tried the operation. -/
def Attempted (actions : List (ProcessAction Adapter Rpc)) (operation : Operation) : Prop :=
  ∃ action ∈ actions, action.operation = some operation

theorem Attempted.append {actions : List (ProcessAction Adapter Rpc)} {operation : Operation}
    (attempted : Attempted actions operation) (later : List (ProcessAction Adapter Rpc)) :
    Attempted (actions ++ later) operation := by
  obtain ⟨action, member, tried⟩ := attempted
  exact ⟨action, List.mem_append_left later member, tried⟩

theorem Attempted.last {action : ProcessAction Adapter Rpc} {operation : Operation}
    (tried : action.operation = some operation) (actions : List (ProcessAction Adapter Rpc)) :
    Attempted (actions ++ [action]) operation :=
  ⟨action, List.mem_append_right actions List.mem_cons_self, tried⟩

/-- The quote and the invoice of a record come from operations that were tried, and its
amounts from the quote. -/
structure Traced (daemon : Daemon secp) (actions : List (ProcessAction Adapter Rpc))
    (record : SettlementRecord) : Prop where
  taken : ∀ quote, record.quote = some quote → ∃ now counterparty,
    Attempted actions (.beginSettlementFromQuote now record.id quote counterparty) ∧
      daemon.Accepts quote (now.getD 0)
  source : ∀ quote, record.quote = some quote → record.fiatAmount = quote.terms.sourceAmount
  settlement : ∀ quote, record.quote = some quote →
    record.btcAmount = quote.terms.settlementAmount
  attached : ∀ invoice, record.counterpartyInvoice = some invoice → ∃ now,
    Attempted actions (.attachCounterpartyInvoice now record.id invoice) ∧
      quoteIsExpired now record = false

namespace Traced

variable {daemon : Daemon secp} {actions : List (ProcessAction Adapter Rpc)}
  {action : ProcessAction Adapter Rpc} {operation : Operation} {old new : SettlementRecord}

/-- More steps trace what was traced. -/
theorem append (traced : Traced daemon actions old)
    (later : List (ProcessAction Adapter Rpc)) : Traced daemon (actions ++ later) old where
  taken quote has := by
    obtain ⟨now, counterparty, attempted, accepts⟩ := traced.taken quote has
    exact ⟨now, counterparty, attempted.append later, accepts⟩
  source := traced.source
  settlement := traced.settlement
  attached invoice has := by
    obtain ⟨now, attempted, current⟩ := traced.attached invoice has
    exact ⟨now, attempted.append later, current⟩

/-- A change of the state and of the attestations. -/
theorem moved (traced : Traced daemon actions old) (state : SettlementState)
    (attestations : List PayoutAttestation) :
    Traced daemon actions { old with state := state, attestations := attestations } :=
  ⟨traced.taken, traced.source, traced.settlement, traced.attached⟩

/-- What an operation writes is traced to it, or to what it read. -/
theorem written {read : Option SettlementRecord} (writes : Writes daemon operation read new)
    (checked : Checked daemon read operation) (source : operation.isSource = true)
    (tried : action.operation = some operation)
    (traced : ∀ old, read = some old → Traced daemon actions old) :
    Traced daemon (actions ++ [action]) new := by
  have before : ∀ old, read = some old → Traced daemon (actions ++ [action]) old :=
    fun old found => (traced old found).append [action]
  cases writes with
  | begun => refine ⟨?_, ?_, ?_, ?_⟩ <;> rintro _ ⟨⟩
  | begunFromQuote now id quote counterparty =>
      refine ⟨?_, ?_, ?_, ?_⟩
      · rintro other ⟨⟩
        exact ⟨now, counterparty, .last tried actions, checked⟩
      · rintro other ⟨⟩
        rfl
      · rintro other ⟨⟩
        rfl
      · rintro other ⟨⟩
  | attached now id invoice record reservation same state =>
      have old := before record rfl
      refine ⟨old.taken, old.source, old.settlement, ?_⟩
      rintro other ⟨⟩
      refine ⟨now, ?_, checked record rfl⟩
      rw [← same] at tried
      exact .last tried actions
  | prepared => cases source
  | answered id record outcome same state =>
      exact (before record rfl).moved outcome.state record.attestations
  | timedOut id record same state | marked id record same state =>
      exact (before record rfl).moved .payoutUnknown record.attestations
  | applied attestation record same authorized state =>
      exact (before record rfl).moved attestation.status.state
        (record.attestations ++ [attestation])
  | reconciled id record outcome same state =>
      exact (before record rfl).moved outcome.state record.attestations
  | released id record same state =>
      exact (before record rfl).moved .settlementReleased record.attestations
  | refunded id record same state =>
      exact (before record rfl).moved .refunded record.attestations
  | conflicted attestation record same authorized conflicts state =>
      exact (before record rfl).moved .disputed (record.attestations ++ [attestation])
  | recorded attestation record same authorized agrees =>
      exact (before record rfl).moved record.state (record.attestations ++ [attestation])

end Traced

/-! ## Every run -/

section Runs

variable [FiatAdapter Adapter] [Lightningd Rpc] {daemon : Daemon secp}
  {process next : Process Adapter Rpc} {action : ProcessAction Adapter Rpc}

/-- A step leaves the store, or writes what its operation may after its checks. -/
theorem process_store (step : daemon.process.step process action = some next) :
    next.world.store = process.world.store ∨ ∃ operation record,
      action.operation = some operation ∧ operation.isSource = true ∧
      next.world.store = process.world.store.put record ∧
      Writes daemon operation (process.world.store.get record.id) record ∧
      Checked daemon (process.world.store.get record.id) operation := by
  cases action with
  | perform operation =>
      simp only [Daemon.process] at step
      split at step
      · rename_i allowed
        cases step
        rcases perform_checked allowed.2.2 with same | ⟨record, stored, writes, checked⟩
        · exact .inl same
        · exact .inr ⟨operation, record, rfl, allowed.1, stored, writes, checked⟩
      · cases step
  | crash operation calls adapter rpc =>
      simp only [Daemon.process] at step
      split at step
      · rename_i allowed
        cases step
        rcases execFor_store (program_writes daemon operation) calls process.world with
          same | ended
        · exact .inl same
        · rcases perform_checked allowed.2.2 with same | ⟨record, stored, writes, checked⟩
          · exact .inl (ended.trans same)
          · exact .inr ⟨operation, record, rfl, allowed.1, ended.trans stored, writes, checked⟩
      · cases step
  | happen adapter rpc =>
      cases step
      exact .inl rfl

/-- The records of a run are traced to its steps. -/
theorem traced_of_run {start : Process Adapter Rpc} {actions : List (ProcessAction Adapter Rpc)}
    (initial : daemon.process.initial start)
    (ran : daemon.process.run start actions = some process) :
    ∀ record ∈ process.world.store.records, Traced daemon actions record := by
  refine run_induction (fun actions process => ∀ record ∈ process.world.store.records,
    Traced daemon actions record) ?_ ?_ ran
  · rw [initial.1]
    rintro record ⟨⟩
  · intro actions process action next _ traced step record member
    rcases process_store step with same | ⟨operation, written, tried, source, stored, writes,
        checked⟩
    · rw [same] at member
      exact (traced record member).append [action]
    · rw [stored] at member
      rcases SettlementStore.mem_put.mp member with rfl | ⟨old, -⟩
      · refine Traced.written writes checked source tried ?_
        intro old found
        exact traced old (SettlementStore.get_some.mp found).1
      · exact (traced record old).append [action]

/-- **A quote binds the payment.** In every run of a payer's operations and crashes, the quote of
a stored settlement is one with which the settlement began while it held, signed by the peer for
this node and the peer. `prepare_destination`, which makes the record of a payee and gives it no
quote, is not among the operations (`Process.allows`). The amounts of the settlement are the
quote's, its invoice was attached before the quote expired and fixes the quoted amount, and once
the process has recovered that invoice is the one a release pays. Signed terms of the peer that
carry the signature of the quote are written as the terms of the quote are. -/
theorem quote_binds_payment (daemon : Daemon secp) {start process : Process Adapter Rpc}
    {actions : List (ProcessAction Adapter Rpc)} (initial : daemon.process.initial start)
    (ran : daemon.process.run start actions = some process) {id : SettlementId}
    {record : SettlementRecord} {quote : ExecutableQuote}
    (found : process.world.store.get id = some record) (has : record.quote = some quote) :
    (∃ now counterparty, Attempted actions
        (.beginSettlementFromQuote now id quote counterparty) ∧
      daemon.Accepts quote (now.getD 0)) ∧
    record.fiatAmount = quote.terms.sourceAmount ∧
    record.btcAmount = quote.terms.settlementAmount ∧
    (∀ invoice, record.counterpartyInvoice = some invoice →
      Lightningd.parse Rpc invoice.text = .ok (some quote.terms.settlementAmount) ∧
      ∃ seconds < quote.terms.expiresAtUnix,
        Attempted actions (.attachCounterpartyInvoice (some seconds) id invoice)) ∧
    (process.fresh = false → record.state = .payoutConfirmed →
      ∃ invoice, record.counterpartyInvoice = some invoice ∧
        process.world.lightning.release id = process.world.lightning.pay id invoice) ∧
    (secp.Lawful → secp.Binding → ∀ key terms,
      daemon.peerIdentity = some (secp.publicKey key) →
      quote.signature = (Quote.sign secp daemon.toJson key terms).signature →
      daemon.toJson quote.terms = daemon.toJson terms) := by
  have sound := Process.sound_of_reachable (reachable_of_run initial ran)
  obtain ⟨member, rfl⟩ := SettlementStore.get_some.mp found
  have traced := traced_of_run initial ran record member
  have priced := (sound.durable record member).priced
  rw [traced.settlement quote has] at priced
  refine ⟨traced.taken quote has, traced.source quote has, traced.settlement quote has, ?_, ?_, ?_⟩
  · intro invoice attached
    obtain ⟨now, attempted, current⟩ := traced.attached invoice attached
    obtain ⟨seconds, rfl, before⟩ := quoteIsExpired_eq_false current has
    exact ⟨priced invoice attached, seconds, before, attempted⟩
  · intro recovered state
    exact release_pays sound.durable (sound.remembered recovered) found state
  · intro lawful binding key terms identity signature
    obtain ⟨now, counterparty, -, peer, configured, verified⟩ := traced.taken quote has
    cases configured.symm.trans identity
    have hashed := Quote.digest_of_verify lawful binding signature verified
    exact List.append_cancel_left (binding.sha256_injective _ _ hashed)

end Runs

/-- What the peer of `payer` asks for the first settlement. -/
def peerQuote : ExecutableQuote :=
  Quote.sign Secp.named payer.toJson peerSecret
    ⟨0, ⟨.ngn, 5⟩, ⟨.kes, 1⟩, 7, ⟨.ngn, 0⟩, 100, [1], [2]⟩

/-- The process dies in the release of a settlement that began from a quote, and another
recovers. -/
def diesQuoted : List (ProcessAction ScriptedAdapter PayingLightningd) :=
  [.perform .recover,
    .perform (.beginSettlementFromQuote (some 10) firstId peerQuote "peer"),
    .perform (.attachCounterpartyInvoice (some 20) firstId ⟨"lnbc"⟩),
    .perform (.requestPayout firstId),
    .crash (.releaseSettlement firstId) 1 .obliging ⟨""⟩,
    .perform .recover]

theorem quote_binds_payment_released :
    ∃ process : Process ScriptedAdapter PayingLightningd,
      payer.process.run { world := { adapter := .obliging, lightning := { rpc := ⟨""⟩ } } }
        diesQuoted = some process ∧
      ∃ invoice, Lightningd.parse PayingLightningd invoice.text = .ok (some 7) ∧
        process.world.lightning.release firstId = process.world.lightning.pay firstId invoice := by
  obtain ⟨process, ran, fresh, record, found, has, state⟩ :
      ∃ process : Process ScriptedAdapter PayingLightningd,
        payer.process.run { world := { adapter := .obliging, lightning := { rpc := ⟨""⟩ } } }
          diesQuoted = some process ∧ process.fresh = false ∧
        ∃ record, process.world.store.get firstId = some record ∧
          record.quote = some peerQuote ∧ record.state = .payoutConfirmed :=
    ⟨_, rfl, rfl, _, rfl, rfl, rfl⟩
  obtain ⟨-, -, -, priced, released, -⟩ := quote_binds_payment payer
    (by exact ⟨rfl, rfl, rfl, rfl⟩) ran found has
  obtain ⟨invoice, attached, pays⟩ := released fresh state
  exact ⟨process, ran, invoice, (priced invoice attached).1, pays⟩

end Safrod.Legacy

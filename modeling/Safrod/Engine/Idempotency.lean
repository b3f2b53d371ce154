import Safrod.Engine.Progress

/-!
# One dispatch for one idempotency key

`one_dispatch` is the promise of the idempotency key over every run of the
daemon: the node is asked at most once, after the row was committed as pending,
and every answer names one payment.

`retry_returns_stored_row` says when a retry returns the row of the first
request: while the invoice has not expired, whatever became of the payment.
-/

set_option autoImplicit false

namespace Safrod

open Table Db

/-! ## Entries of one key -/

/-- The node was asked to send a payment of this key. -/
def Entry.sendsFor (projectId idempotencyKey : String) : Entry → Bool
  | .dispatched project key _ _ _ _ _ => project = projectId && key = idempotencyKey
  | _ => false

/-- How often the node was asked to send for a key. -/
def dispatches (projectId idempotencyKey : String) (log : List Entry) : ℕ :=
  log.countP (Entry.sendsFor projectId idempotencyKey)

theorem Entry.sendsFor_iff {projectId idempotencyKey : String} {entry : Entry} :
    entry.sendsFor projectId idempotencyKey = true ↔
      ∃ id paymentHash bolt11 amountMsat answer, entry =
        .dispatched projectId idempotencyKey id paymentHash bolt11 amountMsat answer := by
  cases entry with
  | dispatched project key id paymentHash bolt11 amountMsat answer =>
      simp only [sendsFor, Bool.and_eq_true, decide_eq_true_eq, dispatched.injEq]
      constructor
      · rintro ⟨rfl, rfl⟩
        exact ⟨id, paymentHash, bolt11, amountMsat, answer, rfl, rfl, rfl, rfl, rfl, rfl, rfl⟩
      · rintro ⟨_, _, _, _, _, rfl, rfl, -⟩
        exact ⟨rfl, rfl⟩
  | _ => simp [sendsFor]

/-- A key has one payment. -/
theorem StoredFor.unique {db : Db} (keyed : PaymentKeys db.outgoingPayments)
    {projectId idempotencyKey firstHash secondHash first second : String}
    (firstStored : StoredFor db projectId idempotencyKey firstHash first)
    (secondStored : StoredFor db projectId idempotencyKey secondHash second) : first = second := by
  obtain ⟨firstRow, firstFound, firstProject, firstKey, -⟩ := firstStored
  obtain ⟨secondRow, secondFound, secondProject, secondKey, -⟩ := secondStored
  obtain ⟨firstMember, rfl⟩ := lookup_some firstFound
  obtain ⟨secondMember, rfl⟩ := lookup_some secondFound
  have same : firstRow = secondRow := by
    refine keyed.idempotency.eq_of_key firstMember secondMember ?_
    rw [firstProject, firstKey, secondProject, secondKey]
  rw [same]

theorem dispatches_le_one {env : Env} {world : World} (reached : (daemon env).Reachable world)
    (projectId idempotencyKey : String) : dispatches projectId idempotencyKey world.log ≤ 1 := by
  have sound := sound_of_reachable reached
  have keyed := keys_of_reachable reached
  by_cases silent : ∃ entry ∈ world.log, entry.sendsFor projectId idempotencyKey = true
  · obtain ⟨entry, member, sends⟩ := silent
    obtain ⟨id, paymentHash, bolt11, amountMsat, answer, rfl⟩ := Entry.sendsFor_iff.mp sends
    -- every entry of the key is an entry of this payment
    have narrow : dispatches projectId idempotencyKey world.log ≤ attempts id world.log := by
      refine List.countP_mono_left ?_
      intro other otherMember otherSends
      obtain ⟨otherId, otherHash, _, _, _, rfl⟩ := Entry.sendsFor_iff.mp otherSends
      have same := StoredFor.unique keyed (sound.entries _ otherMember) (sound.entries _ member)
      exact decide_eq_true same
    exact narrow.trans ((ownership_of_reachable reached).once id)
  · have none_ : dispatches projectId idempotencyKey world.log = 0 := by
      refine List.countP_eq_zero.mpr fun entry member sends => ?_
      exact silent ⟨entry, member, sends⟩
    rw [none_]
    exact Nat.zero_le 1

/-! ## Another request under the key -/

/-- A request under a key that is taken reads the row or is refused, and writes
nothing. -/
theorem beginPayment_again {db : Db} {prepared : Prepared}
    {projectId idempotencyKey : String} {row : PaymentRow}
    (found : db.findPaymentByKey projectId idempotencyKey = some row) (now : DateTime)
    (id : String) (amount : 0 < prepared.amountMsat ∧ prepared.amountMsat ≤ i64Max) :
    beginPayment now (prepared.newPayment id projectId idempotencyKey) db =
      (if row.requestHash = prepared.requestHash then .ok ⟨row.toPaymentRecord, false⟩
        else .error .idempotencyMismatch, db) := by
  cases ended : beginPayment now (prepared.newPayment id projectId idempotencyKey) db with
  | mk answer after =>
      cases beginPayment_begun ended with
      | inserted fits positive keyFree idFree =>
          rw [show db.findPaymentByKey projectId idempotencyKey = none from keyFree] at found
          cases found
      | existing existing here same =>
          cases here.symm.trans found
          rw [if_pos (show row.requestHash = prepared.requestHash from same)]
      | mismatch existing here differs =>
          cases here.symm.trans found
          rw [if_neg (show ¬ row.requestHash = prepared.requestHash from differs)]
      | outOfRange invalid error reason =>
          have fits : ¬ (i64Max < prepared.amountMsat ∨ prepared.amountMsat = 0) := by omega
          exact absurd invalid fits
      | taken keyFree existing here =>
          rw [show db.findPaymentByKey projectId idempotencyKey = none from keyFree] at found
          cases found

/-- The step of such a request. -/
theorem step_begin_again {env : Env} {world : World} (sound : world.Sound env) {task : ℕ}
    {projectId idempotencyKey : String} {request : SendRequest} {prepared : Prepared}
    (begins : world.tasks task = .send projectId idempotencyKey (.begin_ request prepared))
    {row : PaymentRow} (found : world.db.findPaymentByKey projectId idempotencyKey = some row)
    (now : DateTime) (id : String) :
    (daemon env).step world (.act task (.begin_ now id)) = some (world.put task
      ⟨world.db, .idle, [.returned projectId idempotencyKey
        (if row.requestHash = prepared.requestHash then .ok ⟨row.toPaymentRecord, false⟩
          else .error StorageError.idempotencyMismatch.toApiError)]⟩) := by
  have begun := sound.tasks task
  rw [begins] at begun
  obtain ⟨clock, done⟩ := begun
  have call := beginPayment_again found now id (prepare_amount done)
  simp only [daemon, World.step, begins, Task.act, SendPhase.act, call]
  by_cases same : row.requestHash = prepared.requestHash
  · simp only [if_pos same]
    rfl
  · simp only [if_neg same]
    rfl

/-- **One dispatch.** In every run, with any number of requests under one key,
crashes, reconciliations and node events: the node is asked at most once for the
key, and only after the row of the key was committed as pending; the requests
that return a payment return one; and a request whose digest is not the stored
one is refused and sends nothing. -/
theorem one_dispatch {env : Env} {world : World} (reached : (daemon env).Reachable world)
    (projectId idempotencyKey : String) :
    dispatches projectId idempotencyKey world.log ≤ 1 ∧
    (∀ id paymentHash bolt11 amountMsat answer earlier,
      (Entry.dispatched projectId idempotencyKey id paymentHash bolt11 amountMsat answer ::
        earlier) <:+ world.log →
      (∃ author, Entry.stored id .pending author ∈ earlier) ∧
        StoredFor world.db projectId idempotencyKey paymentHash id) ∧
    (∀ first second, Entry.returned projectId idempotencyKey (.ok first) ∈ world.log →
      Entry.returned projectId idempotencyKey (.ok second) ∈ world.log →
      first.payment.id = second.payment.id) ∧
    (∀ task request prepared row now id,
      world.tasks task = .send projectId idempotencyKey (.begin_ request prepared) →
      world.db.findPaymentByKey projectId idempotencyKey = some row →
      row.requestHash ≠ prepared.requestHash →
      (daemon env).step world (.act task (.begin_ now id)) = some (world.put task
        ⟨world.db, .idle, [.returned projectId idempotencyKey
          (.error StorageError.idempotencyMismatch.toApiError)]⟩)) := by
  have sound := sound_of_reachable reached
  have keyed := keys_of_reachable reached
  refine ⟨dispatches_le_one reached projectId idempotencyKey, ?_, ?_, ?_⟩
  · intro id paymentHash bolt11 amountMsat answer earlier suffix
    exact ⟨pending_before_dispatched reached suffix,
      sound.entries _ (suffix.subset List.mem_cons_self)⟩
  · intro first second firstReturned secondReturned
    obtain ⟨firstHash, firstStored⟩ := sound.entries _ firstReturned
    obtain ⟨secondHash, secondStored⟩ := sound.entries _ secondReturned
    exact firstStored.unique keyed secondStored
  · intro task request prepared row now id begins found differs
    rw [step_begin_again sound begins found, if_neg differs]

/-- The first of two requests, up to the answer of the node. -/
def acceptedActions : List Action :=
  [.act 0 (.begin_ 1 "pay_1"), .act 0 (.persist 2), .act 0 (.dispatch (.ok "node_1"))]

theorem one_dispatch_accepted : ∃ world, (daemon regtest).run twoRequests acceptedActions =
    some world ∧ world.log.any (Entry.sends "pay_1") = true ∧
    dispatches "prj_1" "key_1" world.log ≤ 1 := by
  have ran : (daemon regtest).run twoRequests acceptedActions = some _ := rfl
  refine ⟨_, ran, rfl, ?_⟩
  exact (one_dispatch (twoRequests_reachable.leads (Machine.leads_of_run ran)) "prj_1" "key_1").1

/-! ## Retries -/

/-- The action leaves the task where it is. -/
def Action.spares (task : ℕ) : Action → Prop
  | .act other _ => other ≠ task
  | .crash => False
  | .call _ => True

theorem tasks_of_spares {env : Env} {task : ℕ} {actions : List Action} {earlier later : World}
    (spared : ∀ action ∈ actions, action.spares task)
    (ran : (daemon env).run earlier actions = some later) :
    later.tasks task = earlier.tasks task := by
  induction actions generalizing earlier with
  | nil =>
      cases ran
      rfl
  | cons action rest ih =>
      simp only [Machine.run] at ran
      split at ran
      · cases ran
      · rename_i next step
        rw [ih (fun other member => spared other (List.mem_cons_of_mem action member)) ran]
        have here := spared action List.mem_cons_self
        cases stepped_of_step step with
        | acted other action outcome acted =>
            rw [World.put_tasks, if_neg (Ne.symm here)]
        | crashed => cases here
        | called call other => rfl

/-- The request of a task, parsed at a time, ends with the stored row: whatever
the others do before its next storage call, it is answered with the row as it is
then, and the node is not asked. -/
def ReturnsStoredRow (env : Env) (world : World) (task : ℕ)
    (projectId idempotencyKey id : String) (clock : DateTime) : Prop :=
  ∃ parsed, (daemon env).step world (.act task (.parse clock)) = some parsed ∧
    parsed.db = world.db ∧ parsed.log = world.log ∧
    ∀ between later now newId, (∀ action ∈ between, action.spares task) →
      (daemon env).run parsed between = some later →
      ∃ row, later.db.findPayment id = some row ∧
        (daemon env).step later (.act task (.begin_ now newId)) = some (later.put task
          ⟨later.db, .idle,
            [.returned projectId idempotencyKey (.ok ⟨row.toPaymentRecord, false⟩)]⟩)

/-- The invoice of the request has not expired. -/
def InvoiceStands (decode : String → Except String Bolt11Invoice) (request : SendRequest)
    (clock : DateTime) : Prop :=
  ∃ invoice, decode (trim (trim request.bolt11)) = .ok invoice ∧ ¬ invoice.isExpired clock

section Retries

variable {decode : String → Except String Bolt11Invoice} {network : Network}
  {sha256 : List UInt8 → List UInt8} {toText : Value → String} {world : World}
  {projectId idempotencyKey id : String} {request : SendRequest} {task : ℕ}

/-- A retry of a stored request that is past its parse reads the row. -/
theorem step_retry (reached : (daemon (.ldk decode network sha256 toText)).Reachable world)
    (begun : Entry.begun projectId idempotencyKey id request ∈ world.log) {prepared : Prepared}
    (begins : world.tasks task = .send projectId idempotencyKey (.begin_ request prepared))
    (now : DateTime) (newId : String) :
    ∃ row, world.db.findPayment id = some row ∧
      (daemon (.ldk decode network sha256 toText)).step world (.act task (.begin_ now newId)) =
        some (world.put task ⟨world.db, .idle,
          [.returned projectId idempotencyKey (.ok ⟨row.toPaymentRecord, false⟩)]⟩) := by
  have sound := sound_of_reachable reached
  obtain ⟨row, earlier, first, found, project, key, done, digest⟩ := sound.entries _ begun
  have again := sound.tasks task
  rw [begins] at again
  obtain ⟨clock, again⟩ := again
  have same : row.requestHash = prepared.requestHash := by
    rw [digest, prepare_unique done again]
  have foundByKey : world.db.findPaymentByKey projectId idempotencyKey = some row := by
    refine (keys_of_reachable reached).idempotency.lookup_eq_some.mpr ⟨(lookup_some found).1, ?_⟩
    rw [project, key]
  refine ⟨row, found, ?_⟩
  rw [step_begin_again sound begins foundByKey, if_pos same]

theorem returnsStoredRow_iff
    (reached : (daemon (.ldk decode network sha256 toText)).Reachable world)
    (begun : Entry.begun projectId idempotencyKey id request ∈ world.log)
    (retries : world.tasks task = .send projectId idempotencyKey (.parse request))
    (clock : DateTime) :
    ReturnsStoredRow (.ldk decode network sha256 toText) world task projectId idempotencyKey id
      clock ↔ InvoiceStands decode request clock := by
  obtain ⟨row, earlier, first, found, project, key, done, digest⟩ :=
    (sound_of_reachable reached).entries _ begun
  obtain ⟨invoice, decoded, again⟩ := prepare_again done
  constructor
  · rintro ⟨parsed, step, -, quiet, -⟩
    refine ⟨invoice, decoded, ?_⟩
    intro expired
    -- an expired invoice is answered with an error
    have refused := again clock
    rw [if_pos expired] at refused
    simp only [daemon, World.step, retries, Task.act, SendPhase.act, refused, Option.map_some,
      Option.some.injEq] at step
    rw [← step] at quiet
    exact List.cons_ne_self _ _ quiet
  · rintro ⟨invoice', decoded', stands⟩
    rw [decoded] at decoded'
    cases decoded'
    have prepared := again clock
    rw [if_neg stands] at prepared
    have step : (daemon (.ldk decode network sha256 toText)).step world
        (.act task (.parse clock)) = some (world.put task
          ⟨world.db, .send projectId idempotencyKey (.begin_ request first), []⟩) := by
      simp only [daemon, World.step, retries, Task.act, SendPhase.act, prepared, Option.map_some]
    refine ⟨_, step, rfl, rfl, ?_⟩
    intro between later now newId spared ran
    have leads := Machine.leads_of_run ran
    have here : later.tasks task =
        .send projectId idempotencyKey (.begin_ request first) := by
      rw [tasks_of_spares spared ran, World.put_tasks, if_pos rfl]
    exact step_retry ((reached.next step).leads leads) ((log_suffix_of_leads leads).subset begun)
      here now newId

/-- **When a retry returns the stored row.** Every stored payment has the request
that made it in the log, and a later call with the same key and request is
answered with the stored row, without another dispatch, exactly when its invoice
has not expired at the time the call parses it. -/
theorem retry_returns_stored_row
    (reached : (daemon (.ldk decode network sha256 toText)).Reachable world) {row : PaymentRow}
    (member : row ∈ world.db.outgoingPayments) :
    (∃ request, Entry.begun row.projectId row.idempotencyKey row.id request ∈ world.log) ∧
    ∀ request, Entry.begun row.projectId row.idempotencyKey row.id request ∈ world.log →
      ∀ task clock,
        world.tasks task = .send row.projectId row.idempotencyKey (.parse request) →
        (ReturnsStoredRow (.ldk decode network sha256 toText) world task row.projectId
          row.idempotencyKey row.id clock ↔ InvoiceStands decode request clock) := by
  have found : world.db.findPayment row.id = some row :=
    (keys_of_reachable reached).ids.lookup_eq_some.mpr ⟨member, rfl⟩
  refine ⟨(sound_of_reachable reached).recorded.begun row.id row found, ?_⟩
  intro request begun task clock retries
  exact returnsStoredRow_iff reached begun retries clock

end Retries

/-- The same request once more, after the node accepted the payment. -/
def retriedActions : List Action :=
  acceptedActions ++ [.act 0 (.request "prj_1" "key_1" regtestRequest)]

theorem retry_returns_stored_row_accepted : ∃ world,
    (daemon regtest).run twoRequests retriedActions = some world ∧ ∀ clock,
      (ReturnsStoredRow regtest world 0 "prj_1" "key_1" "pay_1" clock ↔
        InvoiceStands regtestDecode regtestRequest clock) := by
  have ran : (daemon regtest).run twoRequests retriedActions = some _ := rfl
  refine ⟨_, ran, ?_⟩
  intro clock
  have reached := twoRequests_reachable.leads (Machine.leads_of_run ran)
  have retried := (retry_returns_stored_row reached List.mem_cons_self).2 regtestRequest
  refine retried ?_ 0 clock rfl
  exact .tail _ (.tail _ (.tail _ (.head _)))

/-- An hour later the same request is answered with an error. -/
theorem retry_after_expiry : ∃ world, (daemon regtest).Reachable world ∧
    Entry.begun "prj_1" "key_1" "pay_1" regtestRequest ∈ world.log ∧
    world.tasks 0 = .send "prj_1" "key_1" (.parse regtestRequest) ∧
    ¬ ReturnsStoredRow regtest world 0 "prj_1" "key_1" "pay_1" 1_700_003_600_000_001 := by
  have ran : (daemon regtest).run twoRequests retriedActions = some _ := rfl
  have reached := twoRequests_reachable.leads (Machine.leads_of_run ran)
  refine ⟨_, reached, .tail _ (.tail _ (.tail _ (.head _))), rfl, ?_⟩
  intro returns
  have stands := (returnsStoredRow_iff reached (.tail _ (.tail _ (.tail _ (.head _)))) rfl
    1_700_003_600_000_001).mp returns
  obtain ⟨invoice, decoded, stands⟩ := stands
  cases decode_regtest.symm.trans decoded
  exact stands (by decide)

end Safrod

import Safrod.Engine.Steps

/-!
# What tasks and the log say of the database

`Task.Sound` is what a task in progress may rely on: the payments it holds are
stored, the node's record it decides by was read, its event was delivered.
`Entry.Sound` is what an entry of the log still says of the database.
`Recorded` ties the statuses of the rows to the log. All of them hold in every
run (`sound_of_reachable`).

`Ownership` is what keeps a payment from being sent twice: the task that created
it is the only one that sends it, and it does so once (`ownership_of_reachable`).
-/

set_option autoImplicit false

namespace Safrod

open Table Db

/-! ## Facts that last -/

/-- The payment is stored, for that project and key and with that hash. -/
def StoredFor (db : Db) (projectId idempotencyKey paymentHash id : String) : Prop :=
  ∃ row, db.findPayment id = some row ∧ row.projectId = projectId ∧
    row.idempotencyKey = idempotencyKey ∧ row.paymentHash = paymentHash

/-- The payment of a record is stored. -/
def Stored (db : Db) (payment : PaymentRecord) : Prop :=
  StoredFor db payment.projectId payment.idempotencyKey payment.paymentHash payment.id

/-- What a step of a reconciliation may rely on. -/
def ReconcilePhase.Sound (payment : PaymentRecord) (log : List Entry) : ReconcilePhase → Prop
  | .look => True
  | .passPending nodeView next resolution =>
      reconcileDecision payment.status nodeView = some (next, resolution) ∧
        Entry.looked payment.paymentHash nodeView ∈ log
  | .settle nodeView next resolution =>
      reconcileDecision payment.status nodeView = some (next, resolution) ∧
        Entry.looked payment.paymentHash nodeView ∈ log

/-- What a step of a handler may rely on. -/
def EventPhase.Sound (db : Db) (event : NodeEvent) : EventPhase → Prop
  | .apply outcome payment =>
      outcomeOf event = some outcome ∧ payment.paymentHash = outcome.paymentHash ∧
        Stored db payment
  | _ => True

def Task.Sound (env : Env) (db : Db) (log : List Entry) : Task → Prop
  | .idle => True
  | .send _ _ (.parse _) => True
  | .send _ _ (.begin_ request prepared) => ∃ clock, prepare env clock request = .ok prepared
  | .send projectId idempotencyKey (.persist prepared payment) =>
      StoredFor db projectId idempotencyKey prepared.paymentHash payment.id
  | .send projectId idempotencyKey (.dispatch prepared payment pending) =>
      StoredFor db projectId idempotencyKey prepared.paymentHash payment.id ∧
        pending.id = payment.id ∧ ∃ author, Entry.stored payment.id .pending author ∈ log
  | .send projectId idempotencyKey (.refuse prepared payment error) =>
      StoredFor db projectId idempotencyKey prepared.paymentHash payment.id ∧
        Entry.dispatched projectId idempotencyKey payment.id prepared.paymentHash prepared.bolt11
          prepared.amountForNode (.error error) ∈ log
  | .reconcile payment phase rest =>
      (∀ open_ ∈ payment :: rest, Stored db open_) ∧ phase.Sound payment log
  | .event nodeEvent _ phase => Entry.delivered nodeEvent ∈ log ∧ phase.Sound db nodeEvent

def Entry.Sound (env : Env) (db : Db) : Entry → Prop
  | .stored id _ _ => ∃ row, db.findPayment id = some row
  | .begun projectId idempotencyKey id request => ∃ row clock prepared,
      db.findPayment id = some row ∧ row.projectId = projectId ∧
        row.idempotencyKey = idempotencyKey ∧ prepare env clock request = .ok prepared ∧
        row.requestHash = prepared.requestHash
  | .dispatched projectId idempotencyKey id paymentHash _ _ _ =>
      StoredFor db projectId idempotencyKey paymentHash id
  | .returned projectId idempotencyKey (.ok result) =>
      ∃ paymentHash, StoredFor db projectId idempotencyKey paymentHash result.payment.id
  | _ => True

/-- The rows of one database in a later one. -/
def Later (db after : Db) : Prop :=
  ∀ id row, db.findPayment id = some row →
    ∃ later, after.findPayment id = some later ∧ Kept row later

section Lasting

variable {env : Env} {db after : Db} {log more : List Entry}

theorem StoredFor.lasts {projectId idempotencyKey paymentHash id : String}
    (stored : StoredFor db projectId idempotencyKey paymentHash id) (later : Later db after) :
    StoredFor after projectId idempotencyKey paymentHash id := by
  obtain ⟨row, found, project, key, hash⟩ := stored
  obtain ⟨next, foundNext, kept⟩ := later id row found
  exact ⟨next, foundNext, kept.projectId.trans project, kept.idempotencyKey.trans key,
    kept.paymentHash.trans hash⟩

theorem ReconcilePhase.Sound.lasts {payment : PaymentRecord} {phase : ReconcilePhase}
    (sound : phase.Sound payment log) (grows : log ⊆ more) : phase.Sound payment more := by
  cases phase with
  | look => trivial
  | passPending nodeView next resolution => exact ⟨sound.1, grows sound.2⟩
  | settle nodeView next resolution => exact ⟨sound.1, grows sound.2⟩

theorem EventPhase.Sound.lasts {event : NodeEvent} {phase : EventPhase}
    (sound : phase.Sound db event) (later : Later db after) : phase.Sound after event := by
  cases phase with
  | handle => trivial
  | apply outcome payment =>
      obtain ⟨resolves, hash, stored⟩ := sound
      exact ⟨resolves, hash, stored.lasts later⟩
  | handled result => trivial

theorem Task.Sound.lasts {task : Task} (sound : task.Sound env db log) (later : Later db after)
    (grows : log ⊆ more) : task.Sound env after more := by
  cases task with
  | idle => trivial
  | send projectId idempotencyKey phase =>
      cases phase with
      | parse request => trivial
      | begin_ request prepared => exact sound
      | persist prepared payment => exact StoredFor.lasts sound later
      | dispatch prepared payment pending =>
          obtain ⟨stored, same, author, recorded⟩ := sound
          exact ⟨stored.lasts later, same, author, grows recorded⟩
      | refuse prepared payment error => exact ⟨sound.1.lasts later, grows sound.2⟩
  | reconcile payment phase rest =>
      refine ⟨?_, sound.2.lasts grows⟩
      intro open_ member
      exact (sound.1 open_ member).lasts later
  | event event known phase => exact ⟨grows sound.1, sound.2.lasts later⟩

theorem Entry.Sound.lasts {entry : Entry} (sound : entry.Sound env db) (later : Later db after) :
    entry.Sound env after := by
  cases entry with
  | stored id status author =>
      obtain ⟨row, found⟩ := sound
      obtain ⟨next, foundNext, -⟩ := later id row found
      exact ⟨next, foundNext⟩
  | begun projectId idempotencyKey id request =>
      obtain ⟨row, clock, prepared, found, project, key, done, hash⟩ := sound
      obtain ⟨next, foundNext, kept⟩ := later id row found
      exact ⟨next, clock, prepared, foundNext, kept.projectId.trans project,
        kept.idempotencyKey.trans key, done, kept.requestHash.trans hash⟩
  | dispatched projectId idempotencyKey id paymentHash bolt11 amountMsat answer =>
      exact StoredFor.lasts sound later
  | looked paymentHash nodeView => trivial
  | returned projectId idempotencyKey result =>
      cases result with
      | error error => trivial
      | ok result =>
          obtain ⟨paymentHash, stored⟩ := sound
          exact ⟨paymentHash, stored.lasts later⟩
  | delivered event => trivial
  | acknowledged event known => trivial

end Lasting

/-! ## What a step leaves -/

theorem rowChanged_of_performed {db after : Db}
    (performed : after = db ∨ ∃ call, after = db.perform call) (id : String) :
    RowChanged (db.findPayment id) (after.findPayment id) := by
  rcases performed with rfl | ⟨call, rfl⟩
  · exact .same _
  · exact (perform_performed call db).payments.row id

theorem later_of_performed {db after : Db}
    (performed : after = db ∨ ∃ call, after = db.perform call) : Later db after := by
  intro id row found
  have changed := rowChanged_of_performed performed id
  rw [found] at changed
  exact changed.kept

theorem Stepped.performed {env : Env} {world next : World} {action : Action}
    (stepped : Stepped env world action next) :
    next.db = world.db ∨ ∃ call, next.db = world.db.perform call := by
  cases stepped with
  | acted task action outcome acted => exact acted.perform
  | crashed => exact .inl rfl
  | called call other => exact .inr ⟨call, rfl⟩

/-- What the log records of the rows: the request that made the row, its status,
and no other status while it is created. -/
structure Recorded (db : Db) (log : List Entry) : Prop where
  begun : ∀ id row, db.findPayment id = some row →
    ∃ request, Entry.begun row.projectId row.idempotencyKey id request ∈ log
  status : ∀ id row, db.findPayment id = some row →
    ∃ author, Entry.stored id row.status author ∈ log
  created : ∀ id row, db.findPayment id = some row → row.status = .created →
    ∀ status author, Entry.stored id status author ∈ log → status = .created

theorem Recorded.of_same {db after : Db} {log : List Entry} (recorded : Recorded db log)
    (same : after.outgoingPayments = db.outgoingPayments) (entries : List Entry)
    (silent : ∀ id status author, Entry.stored id status author ∉ entries) :
    Recorded after (entries ++ log) := by
  have found : ∀ id, after.findPayment id = db.findPayment id := by
    intro id
    rw [findPayment, same, findPayment]
  refine ⟨?_, ?_, ?_⟩
  · intro id row here
    rw [found] at here
    obtain ⟨request, member⟩ := recorded.begun id row here
    exact ⟨request, List.mem_append_right entries member⟩
  · intro id row here
    rw [found] at here
    obtain ⟨author, member⟩ := recorded.status id row here
    exact ⟨author, List.mem_append_right entries member⟩
  · intro id row here created status author member
    rw [found] at here
    rcases List.mem_append.mp member with new | old
    · exact absurd new (silent id status author)
    · exact recorded.created id row here created status author old

theorem findPayment_begun {now : DateTime} {prepared : Prepared}
    {id projectId idempotencyKey : String} (db : Db) (idFree : db.findPayment id = none)
    (other : String) :
    (db.withPayment (createdRow now
      (prepared.newPayment id projectId idempotencyKey))).findPayment other =
      if id = other then some (createdRow now (prepared.newPayment id projectId idempotencyKey))
      else db.findPayment other := by
  have appended := findPayment_withPayment
    (createdRow now (prepared.newPayment id projectId idempotencyKey)) db other
  have identifier : (createdRow now (prepared.newPayment id projectId idempotencyKey)).id = id :=
    rfl
  rw [appended, identifier]
  by_cases same : id = other
  · subst same
    rw [idFree, if_pos rfl, Option.none_or]
  · rw [if_neg same, Option.or_none, if_neg same]

/-- What the step of a task does to the row of one identifier. -/
inductive RowWrote (task : Task) (db after : Db) (id : String) : Prop where
  | same (kept : after.findPayment id = db.findPayment id)
  | created (fresh : db.findPayment id = none) (row : PaymentRow)
      (added : after.findPayment id = some row) (status : row.status = .created)
  | moved (move : Move) (moves : task.move = some move) (target : move.paymentId = id)
      (row : PaymentRow) (found : db.findPayment id = some row)
      (legal : row.status.canTransitionTo move.next = true) (now : DateTime) (fee : Option ℤ)
      (written : after.findPayment id =
        some (resolvedRow now move.next fee move.resolution row))

theorem Wrote.row {task : Task} {db after : Db} {entries : List Entry}
    (wrote : Wrote task db after entries) (id : String) : RowWrote task db after id := by
  cases wrote with
  | nothing entries silent => exact .same rfl
  | credited paymentHash amountMsat known receives now row found stillOpen unclaimed =>
      exact .same rfl
  | begun projectId idempotencyKey request prepared begins now newId keyFree idFree =>
      by_cases here : newId = id
      · subst here
        exact .created idFree _ ((findPayment_begun db idFree newId).trans (if_pos rfl)) rfl
      · exact .same ((findPayment_begun db idFree id).trans (if_neg here))
  | moved move moves now fee row found unclaimed legal entries recorded =>
      obtain ⟨-, same⟩ := lookup_some found
      rw [← same] at found
      have updated := findPayment_of_set found (afterMove_outgoingPayments now move.dedupeKey
        move.next fee move.resolution row db) id
      by_cases here : row.id = id
      · subst here
        rw [if_pos rfl] at updated
        exact .moved move moves same.symm row found legal now fee updated
      · rw [if_neg here] at updated
        exact .same updated

/-- What the step of a task writes is what its entries record. -/
theorem Wrote.recorded {env : Env} {task : Task} {db after : Db} {log entries : List Entry}
    (wrote : Wrote task db after entries) (recorded : Recorded db log)
    (sound : ∀ entry ∈ log, entry.Sound env db) : Recorded after (entries ++ log) := by
  cases wrote with
  | nothing entries silent => exact recorded.of_same rfl entries silent
  | credited paymentHash amountMsat known receives now row found stillOpen unclaimed =>
      refine recorded.of_same ?_ [] (by simp)
      rfl
  | begun projectId idempotencyKey request prepared begins now id keyFree idFree =>
      refine ⟨?_, ?_, ?_⟩
      · intro other row here
        rw [findPayment_begun db idFree] at here
        by_cases same : id = other
        · rw [if_pos same] at here
          cases here
          exact ⟨request, by simp [createdRow, Prepared.newPayment, same]⟩
        · rw [if_neg same] at here
          obtain ⟨asked, member⟩ := recorded.begun other row here
          exact ⟨asked, List.mem_append_right _ member⟩
      · intro other row here
        rw [findPayment_begun db idFree] at here
        by_cases same : id = other
        · rw [if_pos same] at here
          cases here
          exact ⟨.sender, by simp [createdRow, same]⟩
        · rw [if_neg same] at here
          obtain ⟨author, member⟩ := recorded.status other row here
          exact ⟨author, List.mem_append_right _ member⟩
      · intro other row here created status author member
        rw [findPayment_begun db idFree] at here
        rcases List.mem_append.mp member with new | old
        · simp only [List.mem_cons, reduceCtorEq, Entry.stored.injEq, List.not_mem_nil, or_false,
            false_or] at new
          exact new.2.1
        · by_cases same : id = other
          · -- nothing was recorded of a new identifier
            obtain ⟨row', found⟩ := sound _ old
            rw [← same, idFree] at found
            cases found
          · rw [if_neg same] at here
            exact recorded.created other row here created status author old
  | moved move moves now fee row found unclaimed legal entries writes =>
      obtain ⟨-, same⟩ := lookup_some found
      rw [← same] at found
      have updated := findPayment_of_set found (afterMove_outgoingPayments now move.dedupeKey
        move.next fee move.resolution row db)
      refine ⟨?_, ?_, ?_⟩
      · intro other row' here
        rw [updated] at here
        by_cases moved : row.id = other
        · rw [if_pos moved] at here
          cases here
          subst moved
          obtain ⟨request, member⟩ := recorded.begun row.id row found
          exact ⟨request, List.mem_append_right _ member⟩
        · rw [if_neg moved] at here
          obtain ⟨request, member⟩ := recorded.begun other row' here
          exact ⟨request, List.mem_append_right _ member⟩
      · intro other row' here
        rw [updated] at here
        by_cases moved : row.id = other
        · rw [if_pos moved] at here
          cases here
          refine ⟨move.author, List.mem_append_left _ ?_⟩
          exact (writes other move.next move.author).mpr ⟨moved.symm, rfl, rfl⟩
        · rw [if_neg moved] at here
          obtain ⟨author, member⟩ := recorded.status other row' here
          exact ⟨author, List.mem_append_right _ member⟩
      · intro other row' here created status author member
        rw [updated] at here
        by_cases moved : row.id = other
        · rw [if_pos moved] at here
          cases here
          rw [resolvedRow_status] at created
          rw [created] at legal
          exact absurd legal (by rw [PaymentStatus.not_canTransitionTo_created]; decide)
        · rw [if_neg moved] at here
          rcases List.mem_append.mp member with new | old
          · exact absurd ((writes other status author).mp new).1.symm moved
          · exact recorded.created other row' here created status author old

/-! ## Soundness of tasks -/

section Tasks

variable {env : Env} {db : Db} {log : List Entry} {task : Task} {action : TaskAction}
  {outcome : Outcome}

/-- A row of the table is the payment it holds. -/
theorem stored_of_mem (keyed : PaymentKeys db.outgoingPayments) {row : PaymentRow}
    (member : row ∈ db.outgoingPayments) : Stored db row.toPaymentRecord :=
  ⟨row, keyed.ids.lookup_eq_some.mpr ⟨member, rfl⟩, rfl, rfl, rfl⟩

theorem reconcileNext_sound {open_ : List PaymentRecord}
    (stored : ∀ payment ∈ open_, Stored db payment) :
    (reconcileNext open_).Sound env db log := by
  induction open_ with
  | nil => trivial
  | cons payment rest ih =>
      simp only [reconcileNext]
      split
      · exact ih fun other member => stored other (List.mem_cons_of_mem payment member)
      · exact ⟨stored, trivial⟩

/-- **What a task may rely on after its step.** -/
theorem Acted.task_sound (acted : Acted env db task action outcome)
    (sound : task.Sound env db log) (keyed : PaymentKeys db.outgoingPayments)
    (recorded : Recorded outcome.db (outcome.entries ++ log)) :
    outcome.task.Sound env outcome.db (outcome.entries ++ log) := by
  have later := later_of_performed acted.perform
  have grows : log ⊆ outcome.entries ++ log := List.subset_append_right _ _
  cases acted with
  | parsed projectId idempotencyKey request clock prepared done => exact ⟨clock, done⟩
  | begun projectId idempotencyKey request prepared now id payment after call =>
      cases beginPayment_begun call with
      | inserted fits positive keyFree idFree =>
          refine ⟨_, (findPayment_begun db idFree id).trans (if_pos rfl), rfl, rfl, rfl⟩
  | persisted projectId idempotencyKey prepared payment now pending after call =>
      refine ⟨StoredFor.lasts sound later, transitionPayment_id call, ?_⟩
      -- the payment is pending now, whoever moved it there
      cases transitionPayment_moved call with
      | replayed row found key keyed claimed => cases keyed
      | repeated row found same => exact same ▸ recorded.status payment.id row found
      | moved row found unclaimed legal fee fits =>
          obtain ⟨-, same⟩ := lookup_some found
          rw [← same] at found ⊢
          exact recorded.status row.id _ ((findPayment_of_set found
            (afterMove_outgoingPayments now none .pending fee {} row db) row.id).trans (if_pos rfl))
  | refused projectId idempotencyKey prepared payment pending error =>
      exact ⟨StoredFor.lasts sound.1 later, List.mem_cons_self⟩
  | reconciling projectId id payment found =>
      obtain ⟨row, member, rfl⟩ := getPayment_eq_ok found
      refine reconcileNext_sound fun other here => ?_
      rw [List.mem_singleton.mp here]
      exact stored_of_mem keyed member
  | reconcilingAll =>
      refine reconcileNext_sound fun other here => ?_
      obtain ⟨row, member, rfl⟩ := mem_unresolvedPayments here
      exact stored_of_mem keyed member
  | undecided payment rest nodeView none_ =>
      exact reconcileNext_sound fun other here => sound.1 other (List.mem_cons_of_mem payment here)
  | passing payment rest nodeView next resolution decided passes =>
      exact ⟨sound.1, decided, List.mem_cons_self⟩
  | settling payment rest nodeView next resolution decided direct =>
      exact ⟨sound.1, decided, List.mem_cons_self⟩
  | passed payment rest nodeView next resolution now pending after call =>
      refine ⟨?_, sound.2.1, grows sound.2.2⟩
      intro other here
      exact (sound.1 other here).lasts later
  | settled payment rest nodeView next resolution now settled after call =>
      refine reconcileNext_sound fun other here => ?_
      exact (sound.1 other (List.mem_cons_of_mem payment here)).lasts later
  | delivered event => exact ⟨List.mem_cons_self, trivial⟩
  | received paymentHash amountMsat known now answer after call => exact ⟨sound.1, trivial⟩
  | ignored event known tie notReceived irrelevant => exact ⟨sound.1, trivial⟩
  | unmatched event known tie resolving resolves missing => exact ⟨sound.1, trivial⟩
  | picked event known tie resolving resolves payment found =>
      obtain ⟨row, ⟨member, -⟩, rfl⟩ := findUnresolvedPaymentByHash_some found
      obtain ⟨here, hash, -⟩ := mem_unresolvedByHash.mp member
      exact ⟨sound.1, resolves, hash, stored_of_mem keyed here⟩
  | applyFailed event known resolving payment now error after call => exact ⟨sound.1, trivial⟩
  | applied event known resolving payment now applied after call => exact ⟨grows sound.1, trivial⟩
  | retried event known result ends => exact ⟨sound.1, trivial⟩
  | _ => trivial

/-- A write that is recorded is the write of a stored payment. -/
theorem Wrote.stored_sound {after : Db} {entries : List Entry}
    (wrote : Wrote task db after entries) {id : String} {status : PaymentStatus} {author : Author}
    (member : Entry.stored id status author ∈ entries) :
    ∃ row, after.findPayment id = some row := by
  cases wrote with
  | nothing entries silent => exact absurd member (silent id status author)
  | credited paymentHash amountMsat known receives now row found stillOpen unclaimed =>
      cases member
  | begun projectId idempotencyKey request prepared begins now newId keyFree idFree =>
      simp only [List.mem_cons, reduceCtorEq, Entry.stored.injEq, List.not_mem_nil, or_false,
        false_or] at member
      exact ⟨_, (findPayment_begun db idFree id).trans (if_pos member.1.symm)⟩
  | moved move moves now fee row found unclaimed legal entries writes =>
      obtain ⟨rfl, -, -⟩ := (writes id status author).mp member
      obtain ⟨-, same⟩ := lookup_some found
      rw [← same] at found
      exact ⟨_, (findPayment_of_set found (afterMove_outgoingPayments now move.dedupeKey
        move.next fee move.resolution row db) row.id).trans (if_pos rfl)⟩

/-- **What a step adds to the log holds of the database it leaves.** -/
theorem Acted.entries_sound (acted : Acted env db task action outcome)
    (sound : task.Sound env db log) (keyed : PaymentKeys db.outgoingPayments) :
    ∀ entry ∈ outcome.entries, entry.Sound env outcome.db := by
  have later := later_of_performed acted.perform
  intro entry member
  cases entry with
  | stored id status author => exact acted.wrote.stored_sound member
  | looked paymentHash nodeView => trivial
  | delivered event => trivial
  | acknowledged event known => trivial
  | begun projectId idempotencyKey id request =>
      cases acted with
      | begun project key asked prepared now newId payment after call =>
          simp only [List.mem_cons, Entry.begun.injEq, reduceCtorEq, List.not_mem_nil, or_false]
            at member
          obtain ⟨rfl, rfl, rfl, rfl⟩ := member
          obtain ⟨clock, done⟩ := sound
          cases beginPayment_begun call with
          | inserted fits positive keyFree idFree =>
              exact ⟨_, clock, prepared, (findPayment_begun db idFree newId).trans (if_pos rfl),
                rfl, rfl, done, rfl⟩
      | _ => simp [storedBy] at member
  | dispatched projectId idempotencyKey id paymentHash bolt11 amountMsat answer =>
      obtain ⟨prepared, payment, pending, rfl, rfl, rfl, -⟩ := acted.dispatched member
      exact sound.1.lasts later
  | returned projectId idempotencyKey result =>
      cases result with
      | error error => trivial
      | ok result =>
          cases acted with
          | replayed project key asked prepared now newId payment after call =>
              simp only [List.mem_cons, Entry.returned.injEq, Except.ok.injEq, List.not_mem_nil,
                or_false] at member
              obtain ⟨rfl, rfl, rfl⟩ := member
              cases beginPayment_begun call with
              | existing row found same =>
                  obtain ⟨here, keys⟩ := lookup_some found
                  obtain ⟨project, key⟩ := Prod.mk.inj keys
                  exact ⟨row.paymentHash, row, keyed.ids.lookup_eq_some.mpr ⟨here, rfl⟩, project,
                    key, rfl⟩
          | accepted project key prepared payment pending nodeId =>
              simp only [List.mem_cons, Entry.returned.injEq, Except.ok.injEq, reduceCtorEq,
                List.not_mem_nil, or_false] at member
              obtain ⟨rfl, rfl, rfl⟩ := member
              refine ⟨prepared.paymentHash, ?_⟩
              rw [show pending.id = payment.id from sound.2.1]
              exact sound.1
          | failed project key prepared payment refusedWith now failed after call =>
              rcases List.mem_cons.mp member with here | there
              · cases here
                refine ⟨prepared.paymentHash, ?_⟩
                rw [show failed.payment.id = payment.id from transitionPayment_id call]
                exact sound.1.lasts later
              · simp [storedBy] at there
          | _ => simp [storedBy] at member

/-- A dedupe key is claimed for the outcome of an event, and names the payment. -/
theorem Task.Sound.move_dedupeKey (sound : task.Sound env db log) {move : Move}
    (moves : task.move = some move) {key : String} (keyed : move.dedupeKey = some key) :
    ∃ event resolving, outcomeOf event = some resolving ∧
      key = resolving.dedupeKey move.paymentId ∧ move.next = resolving.next := by
  cases task with
  | idle => cases moves
  | send projectId idempotencyKey phase =>
      cases phase with
      | persist prepared payment =>
          cases moves
          cases keyed
      | refuse prepared payment error =>
          cases moves
          cases keyed
      | _ => cases moves
  | reconcile payment phase rest =>
      cases phase with
      | look => cases moves
      | passPending nodeView next resolution =>
          cases moves
          cases keyed
      | settle nodeView next resolution =>
          cases moves
          cases keyed
  | event event known phase =>
      cases phase with
      | apply resolving payment =>
          cases moves
          cases keyed
          exact ⟨event, resolving, sound.2.1, rfl, rfl⟩
      | _ => cases moves

end Tasks

/-! ## Soundness of runs -/

theorem World.put_tasks (world : World) (task : ℕ) (outcome : Outcome) (other : ℕ) :
    (world.put task outcome).tasks other =
      if other = task then outcome.task else world.tasks other :=
  Function.update_apply world.tasks task outcome.task other

structure World.Sound (env : Env) (world : World) : Prop where
  tasks : ∀ task, (world.tasks task).Sound env world.db world.log
  entries : ∀ entry ∈ world.log, entry.Sound env world.db
  recorded : Recorded world.db world.log

theorem World.Sound.next {env : Env} {world next : World} {action : Action}
    (sound : world.Sound env) (keyed : PaymentKeys world.db.outgoingPayments)
    (stepped : Stepped env world action next) : next.Sound env := by
  have later := later_of_performed stepped.performed
  cases stepped with
  | acted task action outcome acted =>
      have recorded := acted.wrote.recorded sound.recorded sound.entries
      refine ⟨?_, ?_, recorded⟩
      · intro other
        rw [World.put_tasks]
        split
        · exact acted.task_sound (sound.tasks task) keyed recorded
        · exact (sound.tasks other).lasts later (List.subset_append_right _ _)
      · intro entry member
        rcases List.mem_append.mp member with new | old
        · exact acted.entries_sound (sound.tasks task) keyed entry new
        · exact (sound.entries entry old).lasts later
  | crashed => exact ⟨fun _ => trivial, sound.entries, sound.recorded⟩
  | called call other =>
      refine ⟨?_, ?_, ?_⟩
      · intro task
        exact (sound.tasks task).lasts later (List.Subset.refl _)
      · intro entry member
        exact (sound.entries entry member).lasts later
      · exact sound.recorded.of_same (perform_routed other world.db).payments [] (by simp)

theorem World.sound_init (env : Env) : ({} : World).Sound env := by
  refine ⟨fun _ => trivial, ?_, ?_, ?_, ?_⟩
  · intro entry member
    cases member
  · intro id row found
    cases found
  · intro id row found
    cases found
  · intro id row found
    cases found

theorem keys_of_reachable {env : Env} {world : World} (reached : (daemon env).Reachable world) :
    PaymentKeys world.db.outgoingPayments :=
  paymentKeys_of_reachable (storage_reachable reached)

/-- **In every run the tasks and the log are sound.** -/
theorem sound_of_reachable {env : Env} {world : World} (reached : (daemon env).Reachable world) :
    world.Sound env := by
  refine reached.invariant (World.Sound env) ?_ ?_
  · rintro _ rfl
    exact World.sound_init env
  · intro world action next earlier sound step
    exact sound.next (keys_of_reachable earlier) (stepped_of_step step)

/-- The log only grows. -/
theorem log_suffix_of_leads {env : Env} {earlier later : World}
    (leads : (daemon env).Leads earlier later) : earlier.log <:+ later.log := by
  induction leads with
  | refl => exact List.suffix_refl _
  | tail _ step ih =>
      obtain ⟨action, step⟩ := step
      cases stepped_of_step step with
      | acted task action outcome acted => exact ih.trans (List.suffix_append _ _)
      | crashed => exact ih
      | called call other => exact ih

/-! ## Dedupe keys -/

/-- The key of an outcome was claimed by the commit that made its payment final. -/
def OutcomeKeys (db : Db) : Prop :=
  ∀ event resolving id, outcomeOf event = some resolving → db.Claimed (resolving.dedupeKey id) →
    ∃ row, db.findPayment id = some row ∧ row.status.isFinal = true

theorem OutcomeKeys.wrote {env : Env} {task : Task} {db after : Db} {log entries : List Entry}
    (keys : OutcomeKeys db) (sound : task.Sound env db log)
    (wrote : Wrote task db after entries) : OutcomeKeys after := by
  cases wrote with
  | nothing entries silent => exact keys
  | credited paymentHash amountMsat known receives now row found stillOpen unclaimed =>
      intro event resolving id resolves claimed
      rcases claimed_withNodeEvent.mp claimed with before | same
      · exact keys event resolving id resolves before
      · exact absurd same (receivedKey_ne_dedupeKey resolves paymentHash id)
  | begun projectId idempotencyKey request prepared begins now newId keyFree idFree =>
      intro event resolving id resolves claimed
      obtain ⟨row, found, final⟩ := keys event resolving id resolves claimed
      refine ⟨row, ?_, final⟩
      rw [findPayment_begun db idFree, if_neg]
      · exact found
      · rintro rfl
        cases idFree.symm.trans found
  | moved move moves now fee row found unclaimed legal entries recorded =>
      obtain ⟨-, rowId⟩ := lookup_some found
      rw [← rowId] at found
      have updated := findPayment_of_set found (afterMove_outgoingPayments now move.dedupeKey
        move.next fee move.resolution row db)
      intro event resolving id resolves claimed
      rcases (claimed_afterMove now move.dedupeKey move.next fee move.resolution row db unclaimed
        _).mp claimed with before | keyed
      · obtain ⟨old, foundOld, final⟩ := keys event resolving id resolves before
        refine ⟨old, ?_, final⟩
        rw [updated, if_neg]
        · exact foundOld
        · -- a final payment is not moved
          rintro rfl
          cases foundOld.symm.trans found
          rw [PaymentStatus.not_canTransitionTo_of_isFinal final] at legal
          cases legal
      · obtain ⟨other, otherOutcome, otherResolves, same, next⟩ :=
          sound.move_dedupeKey moves keyed
        have one : id = row.id := (dedupeKey_inj resolves otherResolves same).trans rowId.symm
        rw [one, updated, if_pos rfl]
        exact ⟨_, rfl, next ▸ outcomeOf_final otherResolves⟩

theorem outcomeKeys_of_reachable {env : Env} {world : World}
    (reached : (daemon env).Reachable world) : OutcomeKeys world.db := by
  refine reached.invariant (fun world => OutcomeKeys world.db) ?_ ?_
  · rintro _ rfl event resolving id resolves ⟨nodeEvent, member, -⟩
    cases member
  · intro world action next earlier keys step
    cases stepped_of_step step with
    | acted task action outcome acted =>
        exact keys.wrote ((sound_of_reachable earlier).tasks task) acted.wrote
    | crashed => exact keys
    | called call other =>
        have routed := perform_routed other world.db
        intro event resolving id resolves claimed
        rw [Claimed, routed.nodeEvents] at claimed
        obtain ⟨row, found, final⟩ := keys event resolving id resolves claimed
        refine ⟨row, ?_, final⟩
        rw [findPayment, routed.payments]
        exact found

/-! ## Who sends a payment -/

/-- The payment a task created, until it is sent and the answer is recorded. -/
def Task.owns : Task → Option String
  | .send _ _ (.persist _ payment) => some payment.id
  | .send _ _ (.dispatch _ payment _) => some payment.id
  | .send _ _ (.refuse _ payment _) => some payment.id
  | _ => none

/-- The payment a task has yet to send. -/
def Task.unsent : Task → Option String
  | .send _ _ (.persist _ payment) => some payment.id
  | .send _ _ (.dispatch _ payment _) => some payment.id
  | _ => none

theorem Task.owns_of_unsent {task : Task} {id : String} (unsent : task.unsent = some id) :
    task.owns = some id := by
  cases task with
  | send projectId idempotencyKey phase =>
      cases phase with
      | persist prepared payment => exact unsent
      | dispatch prepared payment pending => exact unsent
      | _ => cases unsent
  | _ => cases unsent

/-- The node was asked to send this payment. -/
def Entry.sends (id : String) : Entry → Bool
  | .dispatched _ _ paymentId _ _ _ _ => paymentId = id
  | _ => false

/-- How often the node was asked to send a payment. -/
def attempts (id : String) (log : List Entry) : ℕ := log.countP (Entry.sends id)

theorem attempts_storedBy (id : String) (author : Author) (moved : Transitioned) :
    attempts id (storedBy author moved) = 0 := by
  unfold storedBy
  split <;> rfl

theorem attempts_append (id : String) (first second : List Entry) :
    attempts id (first ++ second) = attempts id first + attempts id second :=
  List.countP_append

section Ownership

variable {env : Env} {db : Db} {log : List Entry} {task : Task} {action : TaskAction}
  {outcome : Outcome}

theorem reconcileNext_owns (open_ : List PaymentRecord) : (reconcileNext open_).owns = none := by
  induction open_ with
  | nil => rfl
  | cons payment rest ih =>
      simp only [reconcileNext]
      split
      · exact ih
      · rfl

/-- A task owns what it owned, or what it has just created. -/
theorem Acted.owns (acted : Acted env db task action outcome) {id : String}
    (owns : outcome.task.owns = some id) : task.owns = some id ∨ db.findPayment id = none := by
  cases acted with
  | begun projectId idempotencyKey request prepared now newId payment after call =>
      cases beginPayment_begun call with
      | inserted fits positive keyFree idFree =>
          cases owns
          exact .inr idFree
  | persisted projectId idempotencyKey prepared payment now pending after call => exact .inl owns
  | refused projectId idempotencyKey prepared payment pending error => exact .inl owns
  | reconciling | reconcilingAll | undecided | settled =>
      rw [reconcileNext_owns] at owns
      cases owns
  | _ => cases owns

/-- The node is asked by the task that has yet to send the payment, and once. -/
theorem Acted.attempts (acted : Acted env db task action outcome) (id : String) :
    attempts id outcome.entries = 0 ∨
      (task.unsent = some id ∧ attempts id outcome.entries = 1 ∧ outcome.task.unsent = none) := by
  cases acted with
  | accepted projectId idempotencyKey prepared payment pending nodeId =>
      by_cases here : payment.id = id
      · exact .inr ⟨congrArg some here, by simp [Safrod.attempts, Entry.sends, here], rfl⟩
      · exact .inl (by simp [Safrod.attempts, Entry.sends, here])
  | refused projectId idempotencyKey prepared payment pending error =>
      by_cases here : payment.id = id
      · exact .inr ⟨congrArg some here, by simp [Safrod.attempts, Entry.sends, here], rfl⟩
      · exact .inl (by simp [Safrod.attempts, Entry.sends, here])
  | persisted | failed | passed | settled | applied => exact .inl (attempts_storedBy id _ _)
  | _ => exact .inl rfl

/-- A task has yet to send what it had yet to send, or what it has just created. -/
theorem Acted.unsent (acted : Acted env db task action outcome) {id : String}
    (unsent : outcome.task.unsent = some id) :
    task.unsent = some id ∨ db.findPayment id = none := by
  cases acted with
  | begun projectId idempotencyKey request prepared now newId payment after call =>
      cases beginPayment_begun call with
      | inserted fits positive keyFree idFree =>
          cases unsent
          exact .inr idFree
  | persisted projectId idempotencyKey prepared payment now pending after call => exact .inl unsent
  | reconciling | reconcilingAll | undecided | settled =>
      have owns := Task.owns_of_unsent unsent
      rw [reconcileNext_owns] at owns
      cases owns
  | _ => cases unsent

end Ownership

theorem Task.Sound.of_owns {env : Env} {db : Db} {log : List Entry} {task : Task} {id : String}
    (sound : task.Sound env db log) (owns : task.owns = some id) :
    ∃ row, db.findPayment id = some row := by
  cases task with
  | send projectId idempotencyKey phase =>
      cases phase with
      | persist prepared payment =>
          cases owns
          obtain ⟨row, found, -⟩ := sound
          exact ⟨row, found⟩
      | dispatch prepared payment pending =>
          cases owns
          obtain ⟨⟨row, found, -⟩, -⟩ := sound
          exact ⟨row, found⟩
      | refuse prepared payment error =>
          cases owns
          obtain ⟨⟨row, found, -⟩, -⟩ := sound
          exact ⟨row, found⟩
      | _ => cases owns
  | _ => cases owns

/-- A payment that is not stored was never sent. -/
theorem attempts_eq_zero_of_fresh {env : Env} {db : Db} {log : List Entry} {id : String}
    (sound : ∀ entry ∈ log, entry.Sound env db) (fresh : db.findPayment id = none) :
    attempts id log = 0 := by
  refine List.countP_eq_zero.mpr ?_
  intro entry member sends
  cases entry with
  | dispatched projectId idempotencyKey paymentId paymentHash bolt11 amountMsat answer =>
      obtain ⟨row, found, -⟩ := sound _ member
      rw [of_decide_eq_true sends, fresh] at found
      cases found
  | _ => cases sends

/-- Who owns a payment, and how often it was sent. -/
structure Ownership (world : World) : Prop where
  unique : ∀ first second id, (world.tasks first).owns = some id →
    (world.tasks second).owns = some id → first = second
  once : ∀ id, attempts id world.log ≤ 1
  unsent : ∀ task id, (world.tasks task).unsent = some id → attempts id world.log = 0

theorem Ownership.acted {env : Env} {world : World} (ownership : Ownership world)
    (sound : world.Sound env) {task : ℕ} {action : TaskAction} {outcome : Outcome}
    (acted : Acted env world.db (world.tasks task) action outcome) :
    Ownership (world.put task outcome) := by
  have log : (world.put task outcome).log = outcome.entries ++ world.log := rfl
  -- what the acting task owns is owned by no other
  have alone : ∀ other id, other ≠ task → (world.tasks other).owns = some id →
      outcome.task.owns ≠ some id := by
    intro other id different otherOwns owns
    rcases acted.owns owns with before | fresh
    · exact different (ownership.unique other task id otherOwns before)
    · obtain ⟨row, found⟩ := (sound.tasks other).of_owns otherOwns
      rw [fresh] at found
      cases found
  refine ⟨?_, ?_, ?_⟩
  · intro first second id firstOwns secondOwns
    rw [World.put_tasks] at firstOwns secondOwns
    by_cases isFirst : first = task <;> by_cases isSecond : second = task
    · rw [isFirst, isSecond]
    · rw [if_pos isFirst] at firstOwns
      rw [if_neg isSecond] at secondOwns
      exact absurd firstOwns (alone second id isSecond secondOwns)
    · rw [if_neg isFirst] at firstOwns
      rw [if_pos isSecond] at secondOwns
      exact absurd secondOwns (alone first id isFirst firstOwns)
    · rw [if_neg isFirst] at firstOwns
      rw [if_neg isSecond] at secondOwns
      exact ownership.unique first second id firstOwns secondOwns
  · intro id
    rw [log, attempts_append]
    rcases acted.attempts id with none_ | ⟨unsent, one, -⟩
    · rw [none_, Nat.zero_add]
      exact ownership.once id
    · rw [one, ownership.unsent task id unsent]
  · intro other id unsent
    rw [World.put_tasks] at unsent
    rw [log, attempts_append]
    by_cases here : other = task
    · rw [if_pos here] at unsent
      have quiet : attempts id outcome.entries = 0 := by
        rcases acted.attempts id with none_ | ⟨-, -, sent⟩
        · exact none_
        · rw [sent] at unsent
          cases unsent
      rw [quiet, Nat.zero_add]
      rcases acted.unsent unsent with before | fresh
      · exact ownership.unsent task id before
      · exact attempts_eq_zero_of_fresh sound.entries fresh
    · rw [if_neg here] at unsent
      rw [ownership.unsent other id unsent, Nat.add_zero]
      rcases acted.attempts id with none_ | ⟨acting, -, -⟩
      · exact none_
      · exact absurd (ownership.unique other task id (Task.owns_of_unsent unsent)
          (Task.owns_of_unsent acting)) here

/-- **A payment is sent by the task that created it, and at most once.** -/
theorem ownership_of_reachable {env : Env} {world : World}
    (reached : (daemon env).Reachable world) : Ownership world := by
  refine reached.invariant Ownership ?_ ?_
  · rintro _ rfl
    refine ⟨?_, fun id => Nat.zero_le 1, fun task id unsent => rfl⟩
    intro first second id owns
    cases owns
  · intro world action next earlier ownership step
    cases stepped_of_step step with
    | acted task action outcome acted => exact ownership.acted (sound_of_reachable earlier) acted
    | crashed =>
        refine ⟨?_, ownership.once, ?_⟩
        · intro first second id owns
          cases owns
        · intro task id unsent
          cases unsent
    | called call other => exact ⟨ownership.unique, ownership.once, ownership.unsent⟩

/-! ## Pending before dispatched -/

/-- **The row was pending before the node was asked.** -/
theorem pending_before_dispatched {env : Env} {world : World}
    (reached : (daemon env).Reachable world)
    {projectId idempotencyKey id paymentHash bolt11 : String} {amountMsat : Option ℕ}
    {answer : Except LightningError String} {earlier : List Entry}
    (suffix : (Entry.dispatched projectId idempotencyKey id paymentHash bolt11 amountMsat answer ::
      earlier) <:+ world.log) : ∃ author, Entry.stored id .pending author ∈ earlier := by
  refine reached.invariant (fun world => ∀ earlier,
    (Entry.dispatched projectId idempotencyKey id paymentHash bolt11 amountMsat answer ::
      earlier) <:+ world.log → ∃ author, Entry.stored id .pending author ∈ earlier) ?_ ?_ earlier
    suffix
  · rintro _ rfl earlier suffix
    cases List.suffix_nil.mp suffix
  · intro world action next before held step earlier suffix
    cases stepped_of_step step with
    | crashed => exact held earlier suffix
    | called call other => exact held earlier suffix
    | acted task action outcome acted =>
        obtain ⟨later, split⟩ := suffix
        rcases List.append_eq_append_iff.mp split with ⟨new, entries, log⟩ | ⟨old, -, log⟩
        · cases new with
          | nil => exact held earlier ⟨[], log⟩
          | cons entry rest =>
              obtain ⟨rfl, rfl⟩ := List.cons.inj log
              have member : Entry.dispatched projectId idempotencyKey id paymentHash bolt11
                  amountMsat answer ∈ outcome.entries := by
                rw [entries]
                exact List.mem_append_right _ List.mem_cons_self
              obtain ⟨prepared, payment, pending, here, rfl, -, -⟩ := acted.dispatched member
              have sound := (sound_of_reachable before).tasks task
              rw [here] at sound
              obtain ⟨-, -, author, recorded⟩ := sound
              exact ⟨author, List.mem_append_right _ recorded⟩
        · exact held earlier ⟨old, log.symm⟩

end Safrod

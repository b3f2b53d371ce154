import Safrod.Webhooks.Leases

/-!
# Retries

How often a delivery is attempted and how long the receiver is left alone in between, in runs
where every batch ends within its lease and no delivery is replayed while a worker holds it
(`WithinLease`).

* `Waits` says that nothing of the history keeps the delivery from being sent at a time.
* `sends_spaced`: between two requests of one delivery its pause or the lease of the first one
  passes, unless the delivery was replayed.
* `attempts_bounded`: no more outcomes are recorded than attempts are allowed, and one for each
  replay.
-/

set_option autoImplicit false

namespace Safrod

open Table

/-! ## Pauses -/

/-- The pause after an attempt that follows as many others. -/
def pause (config : DeliveryConfig) (attempts : ℕ) : ℕ :=
  fromStd (backoff (attempts + 1) config.baseBackoff config.maxBackoff)

/-- When a delivery may be sent again, that was sent at a time under a lease. -/
def sendAgain (config : DeliveryConfig) (attempts : ℕ) (time leaseEnd : DateTime) : DateTime :=
  min leaseEnd (time + pause config attempts)

/-- The number of replays of a delivery. -/
def replays (id : String) (log : List DeliveryEvent) : ℕ :=
  log.countP fun
    | .replayed other => other = id
    | _ => false

/-- No request since the last replay of the delivery keeps it from being sent at the time. -/
def Waits (config : DeliveryConfig) (id : String) (time : DateTime) : List DeliveryEvent → Prop
  | [] => True
  | .started _ other sent leaseEnd :: older =>
      (other = id → sendAgain config (recordings id older) sent leaseEnd ≤ time) ∧
        Waits config id time older
  | .replayed other :: older => other = id ∨ Waits config id time older
  | .answered _ _ _ :: older => Waits config id time older
  | .recorded _ _ _ :: older => Waits config id time older

/-- Every request of the history waited for those before it. -/
def Spaced (config : DeliveryConfig) : List DeliveryEvent → Prop
  | [] => True
  | .started _ id time _ :: older => Waits config id time older ∧ Spaced config older
  | .replayed _ :: older => Spaced config older
  | .answered _ _ _ :: older => Spaced config older
  | .recorded _ _ _ :: older => Spaced config older

section Histories

variable {config : DeliveryConfig} {id : String} {time later : DateTime}
  {log : List DeliveryEvent}

theorem waits_answered {worker : ℕ} {other : String} {response : Except String ℕ} :
    Waits config id time (.answered worker other response :: log) ↔ Waits config id time log :=
  Iff.rfl

theorem waits_recorded {worker : ℕ} {other : String} {outcome : DeliveryOutcome} :
    Waits config id time (.recorded worker other outcome :: log) ↔ Waits config id time log :=
  Iff.rfl

theorem spaced_of_spaced_cons {entry : DeliveryEvent} (spaced : Spaced config (entry :: log)) :
    Spaced config log := by
  cases entry with
  | started worker other sent leaseEnd => exact spaced.2
  | replayed other => exact spaced
  | answered worker other response => exact spaced
  | recorded worker other outcome => exact spaced

theorem Waits.mono (waits : Waits config id time log) (order : time ≤ later) :
    Waits config id later log := by
  induction log with
  | nil => trivial
  | cons entry older ih =>
      cases entry with
      | started worker other sent leaseEnd =>
          exact ⟨fun same => Int.le_trans (waits.1 same) order, ih waits.2⟩
      | replayed other =>
          rcases waits with same | waits
          · exact .inl same
          · exact .inr (ih waits)
      | answered worker other response => exact ih waits
      | recorded worker other outcome => exact ih waits

/-- A delivery that was not sent yet need not wait. -/
theorem waits_of_fresh (fresh : ∀ worker sent leaseEnd, .started worker id sent leaseEnd ∉ log) :
    Waits config id time log := by
  induction log with
  | nil => trivial
  | cons entry older ih =>
      have deeper := ih fun worker sent leaseEnd member =>
        fresh worker sent leaseEnd (List.mem_cons_of_mem _ member)
      cases entry with
      | started worker other sent leaseEnd =>
          refine ⟨?_, deeper⟩
          rintro rfl
          exact absurd List.mem_cons_self (fresh worker sent leaseEnd)
      | replayed other => exact .inr deeper
      | answered worker other response => exact deeper
      | recorded worker other outcome => exact deeper

/-- A delivery that may be sent at a time waited for each request since its last replay. -/
theorem Waits.split (waits : Waits config id time log) {newer older : List DeliveryEvent}
    {worker : ℕ} {sent leaseEnd : DateTime}
    (shape : log = newer ++ .started worker id sent leaseEnd :: older)
    (none_ : .replayed id ∉ newer) :
    sendAgain config (recordings id older) sent leaseEnd ≤ time := by
  induction newer generalizing log with
  | nil =>
      subst shape
      exact waits.1 rfl
  | cons entry rest ih =>
      subst shape
      have deeper : .replayed id ∉ rest := fun member => none_ (List.mem_cons_of_mem _ member)
      cases entry with
      | started other otherId otherSent otherEnd => exact ih waits.2 rfl deeper
      | replayed other =>
          rcases waits with rfl | waits
          · exact absurd List.mem_cons_self none_
          · exact ih waits rfl deeper
      | answered other otherId response => exact ih (waits_answered.mp waits) rfl deeper
      | recorded other otherId outcome => exact ih (waits_recorded.mp waits) rfl deeper

theorem Spaced.split (spaced : Spaced config log) {newer older : List DeliveryEvent}
    {worker : ℕ} {leaseEnd : DateTime}
    (shape : log = newer ++ .started worker id time leaseEnd :: older) :
    Waits config id time older := by
  induction newer generalizing log with
  | nil =>
      subst shape
      exact spaced.1
  | cons entry rest ih =>
      subst shape
      cases entry with
      | started other otherId otherSent otherEnd => exact ih (spaced_of_spaced_cons spaced) rfl
      | replayed other => exact ih (spaced_of_spaced_cons spaced) rfl
      | answered other otherId response => exact ih (spaced_of_spaced_cons spaced) rfl
      | recorded other otherId outcome => exact ih (spaced_of_spaced_cons spaced) rfl

/-- The entry does not begin a request for the delivery. -/
def DeliveryEvent.Spares (id : String) : DeliveryEvent → Prop
  | started _ other _ _ => other ≠ id
  | _ => True

theorem Waits.push (waits : Waits config id time log) {entry : DeliveryEvent}
    (spares : entry.Spares id) : Waits config id time (entry :: log) := by
  cases entry with
  | started worker other sent leaseEnd => exact ⟨fun same => absurd same spares, waits⟩
  | replayed other => exact .inr waits
  | answered worker other response => exact waits
  | recorded worker other outcome => exact waits

theorem replays_le_cons (entry : DeliveryEvent) :
    replays id log ≤ replays id (entry :: log) := by
  simp only [replays, List.countP_cons]
  exact Nat.le_add_right _ _

theorem replays_cons_self : replays id (.replayed id :: log) = replays id log + 1 := by
  simp [replays]

end Histories

/-! ## Rows -/

/-- At least one attempt is made. -/
def attemptLimit (config : DeliveryConfig) : ℤ := max config.maxAttempts 1

/-- A row that may be claimed is not due before its pauses are over, and has an attempt left. -/
structure RowPaced (config : DeliveryConfig) (log : List DeliveryEvent) (row : DeliveryRecord) :
    Prop where
  waits : row.status = .pending → Waits config row.id row.nextAttemptAt log
  bounded : (row.attempts : ℤ) ≤ attemptLimit config + replays row.id log
  left : row.status = .pending →
    (row.attempts : ℤ) + 1 ≤ attemptLimit config + replays row.id log

namespace RowPaced

variable {config : DeliveryConfig} {log : List DeliveryEvent} {row : DeliveryRecord}

theorem push (paced : RowPaced config log row) {entry : DeliveryEvent}
    (waits : row.status = .pending → Waits config row.id row.nextAttemptAt (entry :: log)) :
    RowPaced config (entry :: log) row := by
  have more : (replays row.id log : ℤ) ≤ replays row.id (entry :: log) :=
    Int.ofNat_le.mpr (replays_le_cons entry)
  refine ⟨waits, ?_, ?_⟩
  · have bounded := paced.bounded
    omega
  · intro pending
    have left := paced.left pending
    omega

/-- An entry that begins no request for the row. -/
theorem spare (paced : RowPaced config log row) {entry : DeliveryEvent}
    (spares : entry.Spares row.id) : RowPaced config (entry :: log) row :=
  paced.push fun pending => (paced.waits pending).push spares

/-- A request under the lease that the row is pushed to. -/
theorem start (paced : RowPaced config log row) (worker : ℕ) (now : DateTime)
    {leaseEnd : DateTime} (leased : leaseEnd ≤ row.nextAttemptAt) :
    RowPaced config (.started worker row.id now leaseEnd :: log) row := by
  refine paced.push ?_
  intro pending
  refine ⟨?_, paced.waits pending⟩
  intro _
  exact Int.le_trans (Int.min_le_left _ _) leased

/-- A claim of a row that is due. -/
theorem lease (paced : RowPaced config log row) {leaseEnd : DateTime}
    (later : row.nextAttemptAt ≤ leaseEnd) :
    RowPaced config log (Db.leasedRow leaseEnd row) :=
  ⟨fun pending => (paced.waits pending).mono later, paced.bounded, paced.left⟩

/-- A replay. -/
theorem requeue (paced : RowPaced config log row) (now : DateTime) :
    RowPaced config (.replayed row.id :: log) (Db.requeuedRow now row) := by
  have bounded := paced.bounded
  refine ⟨fun _ => .inl rfl, ?_, ?_⟩
  · simp only [Db.requeuedRow, replays_cons_self]
    omega
  · intro _
    simp only [Db.requeuedRow, replays_cons_self]
    omega

/-- An outcome. A retry is not due before the pause is over, and an attempt is left. -/
theorem record (paced : RowPaced config log row) (pending : row.status = .pending) (worker : ℕ)
    (now : DateTime) {outcome : DeliveryOutcome}
    (retries : ∀ status error nextAttemptAt, outcome = .retry status error nextAttemptAt →
      Waits config row.id nextAttemptAt log ∧ (row.attempts : ℤ) + 1 < config.maxAttempts) :
    RowPaced config (.recorded worker row.id outcome :: log) (Db.recordedRow now outcome row) := by
  have left := paced.left pending
  have more : (replays row.id log : ℤ) ≤ replays row.id (.recorded worker row.id outcome :: log) :=
    Int.ofNat_le.mpr (replays_le_cons _)
  cases outcome with
  | delivered status =>
      refine ⟨by rintro ⟨⟩, ?_, by rintro ⟨⟩⟩
      simp only [Db.recordedRow]
      omega
  | retry status error nextAttemptAt =>
      obtain ⟨waits, again⟩ := retries status error nextAttemptAt rfl
      refine ⟨fun _ => waits_recorded.mpr waits, ?_, ?_⟩
      · simp only [Db.recordedRow]
        omega
      · intro _
        have most : config.maxAttempts ≤ attemptLimit config := Int.le_max_left _ _
        simp only [Db.recordedRow]
        omega
  | failed status error =>
      refine ⟨by rintro ⟨⟩, ?_, by rintro ⟨⟩⟩
      simp only [Db.recordedRow]
      omega

end RowPaced

/-! ## Workers -/

/-- What a worker will record of an attempt. -/
def RetriesLater (config : DeliveryConfig) (log : List DeliveryEvent) (current : DueDelivery)
    (outcome : DeliveryOutcome) : Prop :=
  ∀ status error nextAttemptAt, outcome = .retry status error nextAttemptAt →
    (current.attempts : ℤ) + 1 ≤ i32Max →
      Waits config current.id nextAttemptAt log ∧
        (current.attempts : ℤ) + 1 < config.maxAttempts

/-- What a worker holds may be sent now, and what it sends is sent again after its pause. -/
def Phase.Ready (config : DeliveryConfig) (now : DateTime) (log : List DeliveryEvent) :
    Phase → Prop
  | idle => True
  | holding _ due => ∀ delivery ∈ due, Waits config delivery.id now log
  | sending _ since current rest => since ≤ now ∧
      Waits config current.id (since + pause config current.attempts) log ∧
      ∀ delivery ∈ rest, Waits config delivery.id now log
  | answered _ current outcome rest => RetriesLater config log current outcome ∧
      ∀ delivery ∈ rest, Waits config delivery.id now log

namespace Phase

variable {config : DeliveryConfig} {now later : DateTime} {log : List DeliveryEvent}
  {phase : Phase}

theorem ready_resume {leaseEnd : DateTime} {due : List DueDelivery}
    (waits : ∀ delivery ∈ due, Waits config delivery.id now log) :
    (resume leaseEnd due).Ready config now log := by
  cases due with
  | nil => trivial
  | cons head rest => exact waits

theorem Ready.mono (ready : phase.Ready config now log) (order : now ≤ later) :
    phase.Ready config later log := by
  cases phase with
  | idle => trivial
  | holding leaseEnd due => exact fun delivery member => (ready delivery member).mono order
  | sending leaseEnd since current rest =>
      exact ⟨Int.le_trans ready.1 order, ready.2.1,
        fun delivery member => (ready.2.2 delivery member).mono order⟩
  | answered leaseEnd current outcome rest =>
      exact ⟨ready.1, fun delivery member => (ready.2 delivery member).mono order⟩

/-- An entry that begins no request for what the worker holds. -/
theorem Ready.push (ready : phase.Ready config now log) {entry : DeliveryEvent}
    (spares : ∀ delivery ∈ phase.held, entry.Spares delivery.id) :
    phase.Ready config now (entry :: log) := by
  cases phase with
  | idle => trivial
  | holding leaseEnd due =>
      exact fun delivery member => (ready delivery member).push (spares delivery member)
  | sending leaseEnd since current rest =>
      refine ⟨ready.1, ready.2.1.push (spares current List.mem_cons_self), ?_⟩
      intro delivery member
      exact (ready.2.2 delivery member).push (spares delivery (List.mem_cons_of_mem _ member))
  | answered leaseEnd current outcome rest =>
      refine ⟨?_, ?_⟩
      · intro status error nextAttemptAt is fits
        obtain ⟨waits, again⟩ := ready.1 status error nextAttemptAt is fits
        exact ⟨waits.push (spares current List.mem_cons_self), again⟩
      · intro delivery member
        exact (ready.2 delivery member).push (spares delivery (List.mem_cons_of_mem _ member))

end Phase

/-- A retry is put off by the pause, when another attempt is left. -/
theorem attempt_retry {config : DeliveryConfig} {now : DateTime} {delivery : DueDelivery}
    {response : Except String ℕ} {status : Option ℤ} {error : String} {nextAttemptAt : DateTime}
    (retry : attempt config now delivery response = .retry status error nextAttemptAt)
    (fits : (delivery.attempts : ℤ) + 1 ≤ i32Max) :
    nextAttemptAt = now + pause config delivery.attempts ∧
      (delivery.attempts : ℤ) + 1 < config.maxAttempts := by
  have small : attemptNumber delivery = delivery.attempts + 1 := by
    have bound : (delivery.attempts : ℤ) + 1 ≤ 2147483647 := fits
    exact Int.bmod_eq_of_le (by omega) (by omega)
  rcases DeliveryState.attempt_cases config now delivery response with
    ⟨code, -, -, same⟩ | ⟨code, message, same⟩
  · rw [same] at retry
    cases retry
  · rw [same, failure, small] at retry
    split at retry
    · cases retry
    · rename_i enough
      cases retry
      exact ⟨rfl, Int.not_le.mp enough⟩

/-! ## Runs -/

namespace DeliveryState

variable {config : DeliveryConfig} {state next : DeliveryState} {action : DeliveryAction}

structure Paced (config : DeliveryConfig) (state : DeliveryState) : Prop where
  spaced : Spaced config state.log
  rows : ∀ row ∈ state.db.webhookDeliveries, RowPaced config state.log row
  ready : ∀ worker, (state.phases worker).Ready config state.now state.log
  read : ∀ worker, ∀ delivery ∈ (state.phases worker).held,
    ∀ row ∈ state.db.webhookDeliveries, row.id = delivery.id → row.attempts = delivery.attempts
  known : ∀ worker id sent leaseEnd, .started worker id sent leaseEnd ∈ state.log →
    ∃ row ∈ state.db.webhookDeliveries, row.id = id

/-- What other workers hold is ready while the clock goes on. -/
theorem ready_update {phases : ℕ → Phase} {now : DateTime} {log : List DeliveryEvent}
    (ready : ∀ worker, (phases worker).Ready config now log) {worker : ℕ} {phase : Phase}
    (here : phase.Ready config now log) (other : ℕ) :
    (Function.update phases worker phase other).Ready config now log := by
  by_cases same : other = worker
  · subst same
    rw [Function.update_self]
    exact here
  · rw [Function.update_of_ne same]
    exact ready other

/-- What a worker reads of rows that kept their attempts. -/
theorem Paced.read_rows (paced : Paced config state) {rows : List DeliveryRecord}
    (same : ∀ row ∈ rows, ∃ old ∈ state.db.webhookDeliveries,
      old.id = row.id ∧ old.attempts = row.attempts) {worker : ℕ} {delivery : DueDelivery}
    (member : delivery ∈ (state.phases worker).held) {row : DeliveryRecord} (there : row ∈ rows)
    (sameId : row.id = delivery.id) : row.attempts = delivery.attempts := by
  obtain ⟨old, oldMember, id, attempts⟩ := same row there
  rw [← attempts]
  exact paced.read worker delivery member old oldMember (id.trans sameId)

theorem Paced.known_later (paced : Paced config state) {rows : List DeliveryRecord}
    (later : LaterRows state.db.webhookDeliveries rows) {worker : ℕ} {id : String}
    {sent leaseEnd : DateTime} (there : .started worker id sent leaseEnd ∈ state.log) :
    ∃ row ∈ rows, row.id = id := by
  obtain ⟨row, member, same⟩ := paced.known worker id sent leaseEnd there
  obtain ⟨other, found, version⟩ := later row member
  exact ⟨other, found, version.id.trans same⟩

theorem Paced.emit (paced : Paced config state) (kept : Kept config state) {draws : Draws}
    {projectId : String} (taken : (state.db.withDraws draws).TakesDraws projectId)
    (started : DateTime) (kind resourceId : String) (data : Value) (simulated : Bool) :
    Paced config (state.withDb
      ((state.db.withDraws draws).emit started projectId kind resourceId data simulated)) := by
  refine ⟨paced.spaced, ?_, paced.ready, ?_, ?_⟩
  · intro row member
    rcases List.mem_append.mp member with old | new
    · exact paced.rows row old
    · obtain ⟨endpoint, enabled, rfl⟩ := List.mem_map.mp new
      have least : (1 : ℤ) ≤ attemptLimit config := Int.le_max_right _ _
      refine ⟨?_, ?_, ?_⟩
      · intro _
        refine waits_of_fresh ?_
        intro worker sent leaseEnd there
        obtain ⟨old, oldMember, same⟩ := paced.known worker _ sent leaseEnd there
        exact taken.2.2 endpoint enabled old oldMember same
      · simp only [Db.newDelivery, withDb]
        omega
      · intro _
        simp only [Db.newDelivery, withDb]
        omega
  · intro worker delivery member row there same
    rcases List.mem_append.mp there with old | new
    · exact paced.read worker delivery member row old same
    · obtain ⟨endpoint, enabled, rfl⟩ := List.mem_map.mp new
      obtain ⟨old, oldMember, oldSame, -⟩ := kept.held worker delivery member
      exact absurd (oldSame.trans same.symm) (taken.2.2 endpoint enabled old oldMember)
  · intro worker id sent leaseEnd there
    obtain ⟨row, member, same⟩ := paced.known worker id sent leaseEnd there
    exact ⟨row, List.mem_append_left _ member, same⟩

theorem Paced.claim (paced : Paced config state) (kept : Kept config state)
    (lasting : 0 < makeInterval config.leaseSecs) (worker : ℕ) (locked : List String)
    (due : List DueDelivery)
    (taken : ∀ delivery ∈ due, ∃ row ∈ state.db.webhookDeliveries, row.id = delivery.id ∧
      row.attempts = delivery.attempts ∧ row.id ∈ state.db.claimedIds state.now 20 locked) :
    Paced config ((state.withDb (state.db.withLeased (state.db.claimedIds state.now 20 locked)
      (state.now + makeInterval config.leaseSecs))).withPhase worker
        (.resume (state.now + makeInterval config.leaseSecs) due)) := by
  have dueNow : ∀ row ∈ state.db.webhookDeliveries,
      row.id ∈ state.db.claimedIds state.now 20 locked →
        row.status = .pending ∧ row.nextAttemptAt ≤ state.now := by
    intro row member claimed
    obtain ⟨other, there, same, pending, early, -⟩ := Db.claimable_of_mem_claimedIds claimed
    rw [kept.keyed.unique.eq_of_key member there same.symm]
    exact ⟨pending, early⟩
  have sameRows : ∀ row ∈ updateWhere (fun row => row.id ∈ state.db.claimedIds state.now 20 locked)
      (Db.leasedRow (state.now + makeInterval config.leaseSecs)) state.db.webhookDeliveries,
      ∃ old ∈ state.db.webhookDeliveries, old.id = row.id ∧ old.attempts = row.attempts := by
    intro row member
    obtain ⟨old, oldMember, rfl⟩ := mem_updateWhere.mp member
    refine ⟨old, oldMember, ?_⟩
    split
    · exact ⟨rfl, rfl⟩
    · exact ⟨rfl, rfl⟩
  refine ⟨paced.spaced, ?_, ?_, ?_, ?_⟩
  · intro row member
    obtain ⟨old, oldMember, rfl⟩ := mem_updateWhere.mp member
    split
    · rename_i claimed
      refine (paced.rows old oldMember).lease ?_
      exact Int.le_trans (dueNow old oldMember claimed).2
        (Int.le_add_of_nonneg_right (Int.le_of_lt lasting))
    · exact paced.rows old oldMember
  · refine ready_update paced.ready (Phase.ready_resume ?_)
    intro delivery member
    obtain ⟨row, there, same, -, claimed⟩ := taken delivery member
    obtain ⟨pending, early⟩ := dueNow row there claimed
    rw [← same]
    exact ((paced.rows row there).waits pending).mono early
  · intro other delivery member row there same
    by_cases isWorker : other = worker
    · subst isWorker
      simp only [withPhase, withDb, Function.update_self, Phase.held_resume] at member
      obtain ⟨row', there', same', attempts, -⟩ := taken delivery member
      obtain ⟨old, oldMember, id, kept_⟩ := sameRows row there
      rw [← kept_, ← attempts,
        kept.keyed.unique.eq_of_key oldMember there' (id.trans (same.trans same'.symm))]
    · simp only [withPhase, withDb, Function.update_of_ne isWorker] at member
      exact paced.read_rows sameRows member there same
  · intro other id sent leaseEnd there
    exact paced.known_later (laterRows_updateWhere (laterRow_leasedRow _) _) there

theorem Paced.start (paced : Paced config state) (kept : Kept config state)
    (leased : Leased state) {worker : ℕ} {leaseEnd : DateTime} {current : DueDelivery}
    {rest : List DueDelivery}
    (holding : state.phases worker = .holding leaseEnd (current :: rest)) :
    Paced config ((state.withPhase worker (.sending leaseEnd state.now current rest)).withEntry
      (.started worker current.id state.now leaseEnd)) := by
  have held : (state.phases worker).held = current :: rest := by
    rw [holding]
    rfl
  have first : current ∈ (state.phases worker).held := by
    rw [held]
    exact List.mem_cons_self
  have waits : Waits config current.id state.now state.log := by
    have ready := paced.ready worker
    rw [holding] at ready
    exact ready current List.mem_cons_self
  have attempts : recordings current.id state.log = current.attempts := by
    obtain ⟨row, member, same, -⟩ := kept.held worker current first
    rw [← paced.read worker current first row member same, ← same]
    exact (kept.rows row member).attempts.symm
  have distinct : ∀ delivery ∈ rest, current.id ≠ delivery.id := by
    intro delivery member again
    have once := leased.once worker
    rw [held] at once
    exact (List.nodup_cons.mp once).1 (List.mem_map.mpr ⟨delivery, member, again.symm⟩)
  refine ⟨⟨waits, paced.spaced⟩, ?_, ?_, ?_, ?_⟩
  · intro row member
    by_cases same : row.id = current.id
    · have later : leaseEnd ≤ row.nextAttemptAt := by
        refine (leased.rows worker leaseEnd ?_ current first row member same).2
        rw [holding]
        rfl
      have paced := (paced.rows row member).start worker state.now later
      rw [same] at paced
      exact paced
    · exact (paced.rows row member).spare (Ne.symm same)
  · intro other
    by_cases isWorker : other = worker
    · subst isWorker
      simp only [withEntry, withPhase, Function.update_self]
      refine ⟨Int.le_refl _, ⟨?_, ?_⟩, ?_⟩
      · intro _
        rw [attempts]
        exact Int.min_le_right _ _
      · exact waits.mono (Int.le_add_of_nonneg_right (Int.natCast_nonneg _))
      · intro delivery member
        have ready := paced.ready other
        rw [holding] at ready
        exact (ready delivery (List.mem_cons_of_mem _ member)).push (distinct delivery member)
    · simp only [withEntry, withPhase, Function.update_of_ne isWorker]
      refine (paced.ready other).push ?_
      intro delivery member
      exact leased.exclusive worker other (Ne.symm isWorker) current first delivery member
  · intro other delivery member row there same
    refine paced.read other delivery (Phase.held_update ?_ member) row there same
    intro delivery there
    rw [held]
    exact there
  · intro other id sent until_ there
    rcases List.mem_cons.mp there with new | old
    · cases new
      obtain ⟨row, member, same, -⟩ := kept.held worker current first
      exact ⟨row, member, same⟩
    · exact paced.known other id sent until_ old

theorem Paced.answer (paced : Paced config state) {worker : ℕ} (response : Except String ℕ)
    {leaseEnd since : DateTime} {current : DueDelivery} {rest : List DueDelivery}
    (sending : state.phases worker = .sending leaseEnd since current rest) :
    Paced config ((state.withPhase worker (.answered leaseEnd current
      (attempt config state.now current response) rest)).withEntry
        (.answered worker current.id response)) := by
  have ready := paced.ready worker
  rw [sending] at ready
  obtain ⟨early, pausing, others⟩ := ready
  refine ⟨paced.spaced, fun row member => (paced.rows row member).spare trivial, ?_, ?_, ?_⟩
  · have here : (Phase.answered leaseEnd current (attempt config state.now current response)
        rest).Ready config state.now state.log := by
      refine ⟨?_, others⟩
      intro status error nextAttemptAt retry fits
      obtain ⟨later, again⟩ := attempt_retry retry fits
      rw [later]
      exact ⟨pausing.mono (Int.add_le_add_right early _), again⟩
    intro other
    exact (ready_update paced.ready here other).push fun _ _ => trivial
  · intro other delivery member row there same
    refine paced.read other delivery (Phase.held_update ?_ member) row there same
    intro delivery there
    rw [sending]
    exact there
  · intro other id sent until_ there
    rcases List.mem_cons.mp there with new | old
    · cases new
    · exact paced.known other id sent until_ old

/-- The number of attempts fits where an outcome is recorded. -/
theorem record_fits {worker : ℕ} (step : state.step config (.record worker) = some next)
    (grown : next.log ≠ state.log) {leaseEnd : DateTime} {current : DueDelivery}
    {outcome : DeliveryOutcome} {rest : List DueDelivery}
    (answered : state.phases worker = .answered leaseEnd current outcome rest) :
    ∀ row ∈ state.db.webhookDeliveries, row.id = current.id →
      (row.attempts : ℤ) + 1 ≤ i32Max := by
  intro row member same
  by_contra large
  have full : ∃ row ∈ state.db.webhookDeliveries,
      row.id = current.id ∧ i32Max < row.attempts + 1 := ⟨row, member, same, by omega⟩
  simp only [DeliveryState.step, answered, Db.recordDelivery, transaction, if_pos full,
    Option.some.injEq] at step
  rw [← step] at grown
  exact grown rfl

theorem Paced.record (paced : Paced config state) (leased : Leased state) {worker : ℕ}
    {leaseEnd : DateTime} {current : DueDelivery} {outcome : DeliveryOutcome}
    {rest : List DueDelivery}
    (answered : state.phases worker = .answered leaseEnd current outcome rest)
    (fits : ∀ row ∈ state.db.webhookDeliveries, row.id = current.id →
      (row.attempts : ℤ) + 1 ≤ i32Max) :
    Paced config (((state.withDb (state.db.withRecorded state.now current.id outcome)).withPhase
      worker (.resume leaseEnd rest)).withEntry (.recorded worker current.id outcome)) := by
  have held : (state.phases worker).held = current :: rest := by
    rw [answered]
    rfl
  have first : current ∈ (state.phases worker).held := by
    rw [held]
    exact List.mem_cons_self
  have ready := paced.ready worker
  rw [answered] at ready
  have distinct : ∀ other, ∀ delivery ∈ (Function.update state.phases worker
      (.resume leaseEnd rest) other).held, delivery.id ≠ current.id := by
    intro other delivery member again
    by_cases isWorker : other = worker
    · subst isWorker
      rw [Function.update_self, Phase.held_resume] at member
      have once := leased.once other
      rw [held] at once
      exact (List.nodup_cons.mp once).1 (List.mem_map.mpr ⟨delivery, member, again⟩)
    · rw [Function.update_of_ne isWorker] at member
      exact leased.exclusive other worker isWorker delivery member current first again
  refine ⟨paced.spaced, ?_, ?_, ?_, ?_⟩
  · intro row member
    rcases mem_updateWhere_key.mp member with ⟨old, oldMember, same, rfl⟩ | ⟨oldMember, -⟩
    · have read := paced.read worker current first old oldMember same
      have pending : old.status = .pending := by
        refine (leased.rows worker leaseEnd ?_ current first old oldMember same).1
        rw [answered]
        rfl
      have recorded := (paced.rows old oldMember).record pending worker state.now (by
        intro status error nextAttemptAt retry
        rw [same, read]
        exact ready.1 status error nextAttemptAt retry (read ▸ fits old oldMember same))
      rw [same] at recorded
      exact recorded
    · exact (paced.rows row oldMember).spare trivial
  · intro other
    refine Phase.Ready.push ?_ fun _ _ => trivial
    exact ready_update paced.ready (Phase.ready_resume ready.2) other
  · intro other delivery member row there same
    rcases mem_updateWhere_key.mp there with ⟨old, -, sameId, rfl⟩ | ⟨oldMember, -⟩
    · rw [(laterRow_recordedRow state.now outcome old).id] at same
      exact absurd (same.symm.trans sameId) (distinct other delivery member)
    · refine paced.read other delivery (Phase.held_update ?_ member) row oldMember same
      intro delivery there
      rw [Phase.held_resume] at there
      rw [held]
      exact List.mem_cons_of_mem _ there
  · intro other id sent until_ there
    rcases List.mem_cons.mp there with new | old
    · cases new
    · exact paced.known_later (laterRows_updateWhere (laterRow_recordedRow _ _) _) old

theorem Paced.replay (paced : Paced config state) (projectId id : String)
    (within : ∀ worker, ∀ delivery ∈ (state.phases worker).held, delivery.id ≠ id) :
    Paced config ((state.withDb (state.db.withRequeued state.now projectId id)).withEntry
      (.replayed id)) := by
  refine ⟨paced.spaced, ?_, ?_, ?_, ?_⟩
  · intro row member
    obtain ⟨old, oldMember, rfl⟩ := mem_updateWhere.mp member
    split
    · rename_i chosen
      have requeued := (paced.rows old oldMember).requeue state.now
      rw [chosen.1] at requeued
      exact requeued
    · exact (paced.rows old oldMember).spare trivial
  · exact fun other => (paced.ready other).push fun _ _ => trivial
  · intro other delivery member row there same
    obtain ⟨old, oldMember, rfl⟩ := mem_updateWhere.mp there
    split at same
    · rename_i chosen
      exact absurd (same.symm.trans chosen.1) (within other delivery member)
    · rename_i others
      rw [if_neg others]
      exact paced.read other delivery member old oldMember same
  · intro other id sent until_ there
    rcases List.mem_cons.mp there with new | old
    · cases new
    · exact paced.known_later (laterRows_updateWhere (laterRow_requeuedRow _) _) old

theorem Paced.step (paced : Paced config state) (kept : Kept config state) (leased : Leased state)
    (lasting : 0 < makeInterval config.leaseSecs)
    (step : state.step config action = some next) (within : WithinLease state action) :
    Paced config next := by
  have stepped := step_stepped step
  cases stepped with
  | ticked elapsed =>
      exact ⟨paced.spaced, paced.rows, fun worker => (paced.ready worker).mono
        (Int.le_add_of_nonneg_right (Int.natCast_nonneg _)), paced.read, paced.known⟩
  | emitted started draws projectId kind resourceId data simulated early taken =>
      exact paced.emit kept taken started kind resourceId data simulated
  | endpointsSet _ endpoints unique =>
      exact ⟨paced.spaced, paced.rows, paced.ready, paced.read, paced.known⟩
  | claimed worker locked due idle taken distinct =>
      exact paced.claim kept lasting worker locked due taken
  | started worker leaseEnd current rest holding => exact paced.start kept leased holding
  | answered worker response leaseEnd since current rest sending =>
      exact paced.answer response sending
  | recorded worker leaseEnd current outcome rest answered =>
      exact paced.record leased answered
        (record_fits step (List.cons_ne_self _ _) answered)
  | dropped _ worker =>
      refine ⟨paced.spaced, paced.rows, ready_update paced.ready trivial, ?_, paced.known⟩
      intro other delivery member
      refine paced.read other delivery (Phase.held_update ?_ member)
      rintro _ ⟨⟩
  | replayed projectId id => exact paced.replay projectId id within
  | unchanged _ => exact paced

theorem paced_of_reachableBy (lasting : 0 < makeInterval config.leaseSecs)
    (reached : (delivering config).ReachableBy WithinLease state) : Paced config state := by
  have both : Safe state ∧ Paced config state := by
    refine reached.invariant (fun state => Safe state ∧ Paced config state) ?_ ?_
    · rintro state initial
      refine ⟨safe_of_reachableBy lasting (.start initial), ?_⟩
      obtain ⟨empty, idle, fresh⟩ := initial
      refine ⟨?_, ?_, ?_, ?_, ?_⟩
      · rw [fresh]
        trivial
      · rw [empty]
        rintro _ ⟨⟩
      · intro worker
        rw [idle worker]
        trivial
      · intro worker delivery member
        rw [idle worker] at member
        cases member
      · intro worker id sent leaseEnd there
        rw [fresh] at there
        cases there
    · intro state action next earlier held within step
      have kept := kept_of_reachable earlier
      exact ⟨held.1.step kept lasting (step_stepped step) within,
        held.2.step kept held.1.leased lasting step within⟩
  exact both.2

end DeliveryState

/-- **Retries wait.** In a run where every batch ends within its lease and no delivery is replayed
while a worker holds it, two requests of a delivery that was not replayed in between are apart
by the pause that follows as many attempts as were recorded, or the lease of the first one is
over. The lease is at least a second. -/
theorem sends_spaced {config : DeliveryConfig} {state : DeliveryState}
    (lasting : 0 < makeInterval config.leaseSecs)
    (reached : (delivering config).ReachableBy WithinLease state)
    {newer between older : List DeliveryEvent} {worker sender : ℕ} {id : String}
    {time sent leaseEnd leaseEnd' : DateTime}
    (shape : state.log = newer ++ .started worker id time leaseEnd' ::
      (between ++ .started sender id sent leaseEnd :: older))
    (fresh : .replayed id ∉ between) :
    leaseEnd ≤ time ∨ sent + pause config (recordings id older) ≤ time := by
  have spaced := (DeliveryState.paced_of_reachableBy lasting reached).spaced
  have again := (spaced.split shape).split rfl fresh
  rw [sendAgain, Int.min_def] at again
  split at again
  · exact .inl again
  · exact .inr again

/-- **Attempts are bounded.** In a run where every batch ends within its lease and no delivery is
replayed while a worker holds it, no more outcomes are recorded of a delivery than attempts are
configured, and one more for each replay. The lease is at least a second. -/
theorem attempts_bounded {config : DeliveryConfig} {state : DeliveryState}
    (lasting : 0 < makeInterval config.leaseSecs)
    (reached : (delivering config).ReachableBy WithinLease state) (id : String) :
    (recordings id state.log : ℤ) ≤ max config.maxAttempts 1 + replays id state.log := by
  have kept := DeliveryState.kept_of_reachable reached.reachable
  by_cases there : ∃ row ∈ state.db.webhookDeliveries, row.id = id
  · obtain ⟨row, member, rfl⟩ := there
    have bounded :=
      ((DeliveryState.paced_of_reachableBy lasting reached).rows row member).bounded
    rw [(kept.rows row member).attempts] at bounded
    exact bounded
  · have none_ : recordings id state.log = 0 :=
      kept.recordings_fresh fun row member same => there ⟨row, member, same⟩
    have least : (1 : ℤ) ≤ max config.maxAttempts 1 := Int.le_max_right _ _
    omega

/-- A request that fails, and the next one after the first pause. -/
def retryActions : List DeliveryAction := [
  .createEndpoint "we_1" "proj_1" "https://example.test/hook" "whsec_1",
  .emit 0 .counting "proj_1" "invoice.paid" "inv_1" .null false,
  .claim 0 [],
  .start 0,
  .answer 0 (.ok 500),
  .record 0,
  .tick (5 * second),
  .claim 1 [],
  .start 1]

theorem retryActions_within : (delivering {}).StepsMeet WithinLease ⟨0, {}, fun _ => .idle, []⟩
    retryActions := by
  refine .cons trivial rfl (.cons trivial rfl (.cons trivial rfl (.cons trivial rfl
    (.cons trivial rfl (.cons trivial rfl (.cons ?_ rfl (.cons trivial rfl (.cons trivial rfl
      (.nil _)))))))))
  intro worker leaseEnd ends some_
  cases worker with
  | zero => exact absurd rfl some_
  | succ other => exact absurd rfl some_

theorem retried : ∃ state outcome,
    (delivering {}).run ⟨0, {}, fun _ => .idle, []⟩ retryActions = some state ∧ state.log = [
      .started 1 "dlv_1_we_1" 5000000 65000000,
      .recorded 0 "dlv_1_we_1" outcome,
      .answered 0 "dlv_1_we_1" (.ok 500),
      .started 0 "dlv_1_we_1" 0 60000000] := ⟨_, _, rfl, rfl⟩

theorem retried_within {state : DeliveryState}
    (ran : (delivering {}).run ⟨0, {}, fun _ => .idle, []⟩ retryActions = some state) :
    (delivering {}).ReachableBy WithinLease state := by
  have start : (delivering {}).ReachableBy WithinLease ⟨0, {}, fun _ => .idle, []⟩ :=
    .start ⟨rfl, fun _ => rfl, rfl⟩
  exact Machine.reachableBy_of_run start retryActions_within ran

theorem sends_spaced_retried : ∃ state,
    (delivering {}).run ⟨0, {}, fun _ => .idle, []⟩ retryActions = some state ∧
      ((60000000 : ℤ) ≤ 5000000 ∨
        0 + (pause {} (recordings "dlv_1_we_1" []) : ℤ) ≤ 5000000) := by
  obtain ⟨state, outcome, ran, log⟩ := retried
  have shape : state.log = [] ++ .started 1 "dlv_1_we_1" 5000000 65000000 ::
      ([.recorded 0 "dlv_1_we_1" outcome,
        .answered 0 "dlv_1_we_1" (.ok 500)] ++
          .started 0 "dlv_1_we_1" 0 60000000 :: []) := log
  refine ⟨state, ran, sends_spaced (by decide) (retried_within ran) shape ?_⟩
  simp

theorem attempts_bounded_retried : ∃ state,
    (delivering {}).run ⟨0, {}, fun _ => .idle, []⟩ retryActions = some state ∧
      (recordings "dlv_1_we_1" state.log : ℤ) ≤
        max 8 1 + replays "dlv_1_we_1" state.log := by
  obtain ⟨state, -, ran, -⟩ := retried
  exact ⟨state, ran, attempts_bounded (by decide) (retried_within ran) _⟩

end Safrod

import Safrod.Webhooks.Deliver

/-!
# At least once

What a delivery row says about the history of its delivery. A decision to give up
rests on the number of attempts read at the claim; that number never falls, so the
decision is still right when it is recorded, whatever other workers and replays did
in between.

* `Grows` is what every step does to rows and history; no row is ever removed.
* `Accounted` is what holds of every row in every reachable state.
-/

set_option autoImplicit false

namespace Safrod

open Table

/-! ## Histories -/

namespace DeliveryEvent

/-- An outcome was recorded for the delivery. -/
def Records (id : String) : DeliveryEvent → Prop
  | recorded _ other _ => other = id
  | _ => False

/-- A request for the delivery was answered with a 2xx status. -/
def Delivers (id : String) : DeliveryEvent → Prop
  | answered _ other (.ok status) => other = id ∧ Success status
  | _ => False

instance (id : String) (event : DeliveryEvent) : Decidable (event.Records id) :=
  match event with
  | recorded _ other _ => inferInstanceAs (Decidable (other = id))
  | started _ _ _ _ => inferInstanceAs (Decidable False)
  | answered _ _ _ => inferInstanceAs (Decidable False)
  | replayed _ => inferInstanceAs (Decidable False)

end DeliveryEvent

/-- The number of outcomes recorded for a delivery. -/
def recordings (id : String) (log : List DeliveryEvent) : ℕ :=
  log.countP fun event => event.Records id

theorem recordings_cons_of_not {id : String} {event : DeliveryEvent} (other : ¬ event.Records id)
    (log : List DeliveryEvent) : recordings id (event :: log) = recordings id log := by
  rw [recordings, List.countP_cons_of_neg (by simpa using other), recordings]

theorem recordings_recorded (id : String) (worker : ℕ) (other : String)
    (outcome : DeliveryOutcome) (log : List DeliveryEvent) :
    recordings id (.recorded worker other outcome :: log) =
      recordings id log + if other = id then 1 else 0 := by
  by_cases same : other = id
  · have here : (DeliveryEvent.recorded worker other outcome).Records id := same
    rw [if_pos same, recordings, List.countP_cons, if_pos (decide_eq_true here), recordings]
  · have others : ¬ (DeliveryEvent.recorded worker other outcome).Records id := same
    rw [if_neg same, recordings_cons_of_not others, Nat.add_zero]

/-! ## Rows grow -/

/-- The row is a later version of the other: the same delivery with no fewer attempts. -/
structure LaterRow (row later : DeliveryRecord) : Prop where
  id : later.id = row.id
  eventSeq : later.eventSeq = row.eventSeq
  endpointId : later.endpointId = row.endpointId
  attempts : row.attempts ≤ later.attempts

theorem LaterRow.refl (row : DeliveryRecord) : LaterRow row row := ⟨rfl, rfl, rfl, Nat.le_refl _⟩

theorem LaterRow.trans {first second third : DeliveryRecord} (before : LaterRow first second)
    (after : LaterRow second third) : LaterRow first third :=
  ⟨after.id.trans before.id, after.eventSeq.trans before.eventSeq,
    after.endpointId.trans before.endpointId, before.attempts.trans after.attempts⟩

theorem laterRow_leasedRow (leaseEnd : DateTime) (row : DeliveryRecord) :
    LaterRow row (Db.leasedRow leaseEnd row) := ⟨rfl, rfl, rfl, Nat.le_refl _⟩

theorem laterRow_requeuedRow (now : DateTime) (row : DeliveryRecord) :
    LaterRow row (Db.requeuedRow now row) := ⟨rfl, rfl, rfl, Nat.le_refl _⟩

theorem laterRow_recordedRow (now : DateTime) (outcome : DeliveryOutcome) (row : DeliveryRecord) :
    LaterRow row (Db.recordedRow now outcome row) := by
  cases outcome with
  | delivered status => exact ⟨rfl, rfl, rfl, Nat.le_succ _⟩
  | retry status error nextAttemptAt => exact ⟨rfl, rfl, rfl, Nat.le_succ _⟩
  | failed status error => exact ⟨rfl, rfl, rfl, Nat.le_succ _⟩

/-- Every delivery of the first table has a later version in the second. -/
def LaterRows (rows later : List DeliveryRecord) : Prop :=
  ∀ row ∈ rows, ∃ other ∈ later, LaterRow row other

theorem LaterRows.refl (rows : List DeliveryRecord) : LaterRows rows rows :=
  fun row member => ⟨row, member, .refl row⟩

theorem laterRows_updateWhere {chosen : DeliveryRecord → Prop} [DecidablePred chosen]
    {set : DeliveryRecord → DeliveryRecord} (later : ∀ row, LaterRow row (set row))
    (rows : List DeliveryRecord) : LaterRows rows (updateWhere chosen set rows) := by
  intro row member
  refine ⟨_, mem_updateWhere.mpr ⟨row, member, rfl⟩, ?_⟩
  split
  · exact later row
  · exact .refl row

namespace DeliveryState

variable {config : DeliveryConfig} {state next : DeliveryState} {action : DeliveryAction}

/-- What every step does: time passes, rows get later versions and the history grows. -/
structure Grows (earlier later : DeliveryState) : Prop where
  now : earlier.now ≤ later.now
  rows : LaterRows earlier.db.webhookDeliveries later.db.webhookDeliveries
  log : earlier.log <:+ later.log

theorem Grows.refl (state : DeliveryState) : Grows state state :=
  ⟨Int.le_refl _, .refl _, List.suffix_rfl⟩

theorem Grows.trans {first second third : DeliveryState} (before : Grows first second)
    (after : Grows second third) : Grows first third := by
  refine ⟨Int.le_trans before.now after.now, ?_, before.log.trans after.log⟩
  intro row member
  obtain ⟨middle, there, one⟩ := before.rows row member
  obtain ⟨last, found, two⟩ := after.rows middle there
  exact ⟨last, found, one.trans two⟩

theorem Stepped.grows (stepped : Stepped config state action next) : Grows state next := by
  cases stepped with
  | ticked elapsed => exact ⟨Int.le_add_of_nonneg_right (Int.natCast_nonneg _), .refl _,
      List.suffix_rfl⟩
  | emitted started draws projectId kind resourceId data simulated early taken =>
      refine ⟨Int.le_refl _, ?_, List.suffix_rfl⟩
      intro row member
      exact ⟨row, List.mem_append_left _ member, .refl row⟩
  | endpointsSet _ endpoints unique => exact ⟨Int.le_refl _, .refl _, List.suffix_rfl⟩
  | claimed worker locked due idle taken distinct =>
      exact ⟨Int.le_refl _, laterRows_updateWhere (laterRow_leasedRow _) _, List.suffix_rfl⟩
  | started worker leaseEnd current rest holding =>
      exact ⟨Int.le_refl _, .refl _, List.suffix_cons _ _⟩
  | answered worker response leaseEnd since current rest sending =>
      exact ⟨Int.le_refl _, .refl _, List.suffix_cons _ _⟩
  | recorded worker leaseEnd current outcome rest answered =>
      exact ⟨Int.le_refl _, laterRows_updateWhere (laterRow_recordedRow _ _) _,
        List.suffix_cons _ _⟩
  | dropped _ worker => exact ⟨Int.le_refl _, .refl _, List.suffix_rfl⟩
  | replayed projectId id =>
      exact ⟨Int.le_refl _, laterRows_updateWhere (laterRow_requeuedRow _) _,
        List.suffix_cons _ _⟩
  | unchanged _ => exact .refl _

/-! ## Deliveries are named once -/

/-- No two endpoints share an identifier, and no two deliveries do. -/
structure Keyed (db : Db) : Prop where
  endpoints : KeyUnique (fun endpoint : WebhookEndpoint => endpoint.id) db.webhookEndpoints
  unique : KeyUnique (fun row : DeliveryRecord => row.id) db.webhookDeliveries

/-- The columns refuse an identifier that is taken. -/
theorem Keyed.emit {db : Db} (keyed : Keyed db) {draws : Draws} {projectId : String}
    (taken : (db.withDraws draws).TakesDraws projectId) (now : DateTime)
    (kind resourceId : String) (data : Value) (simulated : Bool) :
    Keyed ((db.withDraws draws).emit now projectId kind resourceId data simulated) := by
  obtain ⟨-, distinct, fresh⟩ := taken
  refine ⟨keyed.endpoints, ?_⟩
  have names : (((db.withDraws draws).enabledEndpoints projectId).map
        (Db.newDelivery now draws db.nextSeq)).map (fun row => row.id) =
      ((db.withDraws draws).enabledEndpoints projectId).map fun endpoint =>
        draws.deliveryId db.nextSeq endpoint.id := by
    rw [List.map_map]
    rfl
  rw [KeyUnique, Db.emit_webhookDeliveries, List.map_append]
  refine List.nodup_append.mpr ⟨keyed.unique, names ▸ distinct, ?_⟩
  intro old oldMember new newMember same
  obtain ⟨row, member, rfl⟩ := List.mem_map.mp oldMember
  obtain ⟨delivery, inserted, rfl⟩ := List.mem_map.mp newMember
  obtain ⟨endpoint, enabled, rfl⟩ := List.mem_map.mp inserted
  exact fresh endpoint enabled row member same

/-- An update of delivery rows keeps their names. -/
theorem Keyed.update {db : Db} (keyed : Keyed db) {chosen : DeliveryRecord → Prop}
    [DecidablePred chosen] {set : DeliveryRecord → DeliveryRecord}
    (later : ∀ row, LaterRow row (set row)) :
    Keyed { db with webhookDeliveries := updateWhere chosen set db.webhookDeliveries } :=
  ⟨keyed.endpoints, keyed.unique.update fun row => (later row).id⟩

theorem Stepped.keyed (stepped : Stepped config state action next) (keyed : Keyed state.db) :
    Keyed next.db := by
  cases stepped with
  | ticked elapsed => exact keyed
  | emitted started draws projectId kind resourceId data simulated early taken =>
      exact keyed.emit taken started kind resourceId data simulated
  | endpointsSet _ endpoints unique =>
      exact ⟨unique keyed.endpoints, keyed.unique⟩
  | claimed worker locked due idle taken distinct =>
      exact keyed.update (laterRow_leasedRow _)
  | started worker leaseEnd current rest holding => exact keyed
  | answered worker response leaseEnd since current rest sending => exact keyed
  | recorded worker leaseEnd current outcome rest answered =>
      exact keyed.update (laterRow_recordedRow _ _)
  | dropped _ worker => exact keyed
  | replayed projectId id => exact keyed.update (laterRow_requeuedRow _)
  | unchanged _ => exact keyed

/-! ## What workers hold -/

/-- A claimed row was pending. -/
theorem Keyed.pending_of_claimed {db : Db} (keyed : Keyed db) {now : DateTime}
    {locked : List String} {row : DeliveryRecord} (member : row ∈ db.webhookDeliveries)
    (claimed : row.id ∈ db.claimedIds now 20 locked) : row.status = .pending := by
  obtain ⟨other, there, same, pending, -⟩ := Db.claimable_of_mem_claimedIds claimed
  rw [keyed.unique.eq_of_key member there same.symm]
  exact pending

/-- What a worker holds after a step it held before, or it was claimed just now. -/
theorem Stepped.held (stepped : Stepped config state action next) (keyed : Keyed state.db)
    (worker : ℕ) {delivery : DueDelivery} (member : delivery ∈ (next.phases worker).held) :
    delivery ∈ (state.phases worker).held ∨
      ∃ row ∈ state.db.webhookDeliveries, row.id = delivery.id ∧
        row.attempts = delivery.attempts ∧ row.status = .pending := by
  have kept : ∀ (other : ℕ) (phase : Phase), (∀ delivery ∈ phase.held,
        delivery ∈ (state.phases other).held) →
      delivery ∈ (Function.update state.phases other phase worker).held →
      delivery ∈ (state.phases worker).held := by
    intro other phase within member
    by_cases same : worker = other
    · subst same
      rw [Function.update_self] at member
      exact within delivery member
    · rw [Function.update_of_ne same] at member
      exact member
  cases stepped with
  | ticked elapsed => exact .inl member
  | emitted started draws projectId kind resourceId data simulated early taken => exact .inl member
  | endpointsSet _ endpoints unique => exact .inl member
  | claimed claimer locked due idle taken distinct =>
      by_cases same : worker = claimer
      · subst same
        simp only [withPhase, withDb, Function.update_self, Phase.held_resume] at member
        obtain ⟨row, there, id, attempts, claimed⟩ := taken delivery member
        exact .inr ⟨row, there, id, attempts, keyed.pending_of_claimed there claimed⟩
      · simp only [withPhase, withDb, Function.update_of_ne same] at member
        exact .inl member
  | started sender leaseEnd current rest holding =>
      refine .inl (kept sender _ ?_ member)
      intro delivery there
      rw [holding]
      exact there
  | answered sender response leaseEnd since current rest sending =>
      refine .inl (kept sender _ ?_ member)
      intro delivery there
      rw [sending]
      exact there
  | recorded sender leaseEnd current outcome rest answered =>
      refine .inl (kept sender _ ?_ member)
      intro delivery there
      rw [Phase.held_resume] at there
      rw [answered]
      exact List.mem_cons_of_mem _ there
  | dropped _ other =>
      refine .inl (kept other _ ?_ member)
      rintro _ ⟨⟩
  | replayed projectId id => exact .inl member
  | unchanged _ => exact .inl member

/-! ## Outcomes -/

/-- An outcome is justified: it was delivered after a 2xx answer, the next attempt is
at most the longest delay away, or all attempts were made. -/
def OutcomeSound (config : DeliveryConfig) (state : DeliveryState) (delivery : DueDelivery) :
    DeliveryOutcome → Prop
  | .delivered _ => ∃ event ∈ state.log, event.Delivers delivery.id
  | .retry _ _ nextAttemptAt => nextAttemptAt ≤ state.now + config.maxBackoff
  | .failed _ _ => config.maxAttempts ≤ delivery.attempts + 1

theorem OutcomeSound.grow {delivery : DueDelivery} {outcome : DeliveryOutcome}
    (sound : OutcomeSound config state delivery outcome) (grows : Grows state next) :
    OutcomeSound config next delivery outcome := by
  cases outcome with
  | delivered status =>
      obtain ⟨event, member, delivers⟩ := sound
      exact ⟨event, grows.log.subset member, delivers⟩
  | retry status error nextAttemptAt =>
      exact Int.le_trans sound (Int.add_le_add_right grows.now _)
  | failed status error => exact sound

/-- A number that wraps around is no greater than before. -/
theorem bmod_le_self {value : ℤ} (nonneg : 0 ≤ value) (modulus : ℕ) :
    Int.bmod value modulus ≤ value := by
  obtain ⟨number, rfl⟩ := Int.eq_ofNat_of_zero_le nonneg
  have small : ((number % modulus : ℕ) : ℤ) ≤ number := Int.ofNat_le.mpr (Nat.mod_le _ _)
  simp only [Int.bmod, ← Int.natCast_mod]
  split
  · exact small
  · omega

theorem attemptNumber_le (delivery : DueDelivery) :
    attemptNumber delivery ≤ delivery.attempts + 1 :=
  bmod_le_self (Int.natCast_nonneg (delivery.attempts + 1)) _

theorem fromStd_backoff_le (attemptNumber : ℤ) (base bound : ℕ) :
    fromStd (backoff attemptNumber base bound) ≤ bound := by
  have capped : backoff attemptNumber base bound ≤ bound := Nat.min_le_right _ _
  by_cases fits : backoff attemptNumber base bound ≤ i64Max * 1000
  · rw [fromStd, if_pos fits]
    exact capped
  · rw [fromStd, if_neg fits]
    exact Nat.zero_le bound

/-- A failed attempt is the last one, or another follows after a bounded delay. -/
theorem failure_cases (config : DeliveryConfig) (now : DateTime) (delivery : DueDelivery)
    (status : Option ℤ) (error : String) :
    (config.maxAttempts ≤ delivery.attempts + 1 ∧
      failure config now (attemptNumber delivery) status error = .failed status error) ∨
    ∃ delay : ℕ, delay ≤ config.maxBackoff ∧
      failure config now (attemptNumber delivery) status error =
        .retry status error (now + delay) := by
  by_cases enough : config.maxAttempts ≤ attemptNumber delivery
  · exact .inl ⟨Int.le_trans enough (attemptNumber_le delivery), if_pos enough⟩
  · exact .inr ⟨_, fromStd_backoff_le _ _ _, if_neg enough⟩

/-- An attempt succeeded with a 2xx answer, or it failed. -/
theorem attempt_cases (config : DeliveryConfig) (now : DateTime) (delivery : DueDelivery)
    (response : Except String ℕ) :
    (∃ status : ℕ, response = .ok status ∧ Success status ∧
      attempt config now delivery response = .delivered status) ∨
    ∃ status error, attempt config now delivery response =
      failure config now (attemptNumber delivery) status error := by
  cases response with
  | error message => exact .inr ⟨none, message, rfl⟩
  | ok status =>
      by_cases success : Success status
      · exact .inl ⟨status, rfl, success, if_pos success⟩
      · exact .inr ⟨some status, "http " ++ toString status, if_neg success⟩

theorem attempt_sound (worker : ℕ) (delivery : DueDelivery) (response : Except String ℕ) :
    OutcomeSound config (state.withEntry (.answered worker delivery.id response)) delivery
      (attempt config state.now delivery response) := by
  rcases attempt_cases config state.now delivery response with
    ⟨status, rfl, success, same⟩ | ⟨status, error, same⟩
  · rw [same]
    exact ⟨_, List.mem_cons_self, rfl, success⟩
  · rcases failure_cases config state.now delivery status error with
      ⟨enough, last⟩ | ⟨delay, bound, later⟩
    · rw [same.trans last]
      exact enough
    · rw [same.trans later]
      exact Int.add_le_add_left (Int.ofNat_le.mpr bound) state.now

/-! ## Rows and their history -/

/-- What a row says of its delivery: it failed after the configured number of
attempts, it was delivered after a 2xx answer, its attempts are the outcomes
recorded, and it is due again within the lease or the longest delay. -/
structure Accounted (config : DeliveryConfig) (state : DeliveryState) (row : DeliveryRecord) :
    Prop where
  failed : row.status = .failed → config.maxAttempts ≤ row.attempts
  delivered : row.status = .delivered → ∃ event ∈ state.log, event.Delivers row.id
  attempts : row.attempts = recordings row.id state.log
  due : row.nextAttemptAt ≤ state.now + max config.lease config.maxBackoff

structure Kept (config : DeliveryConfig) (state : DeliveryState) : Prop where
  keyed : Keyed state.db
  rows : ∀ row ∈ state.db.webhookDeliveries, Accounted config state row
  held : ∀ worker, ∀ delivery ∈ (state.phases worker).held,
    ∃ row ∈ state.db.webhookDeliveries, row.id = delivery.id ∧ delivery.attempts ≤ row.attempts
  answered : ∀ worker leaseEnd current outcome rest,
    state.phases worker = .answered leaseEnd current outcome rest →
      OutcomeSound config state current outcome
  logged : ∀ event ∈ state.log, ∀ id, event.Records id →
    ∃ row ∈ state.db.webhookDeliveries, row.id = id

/-- A row the step leaves alone, while its delivery's outcomes stay the same. -/
theorem Accounted.grow {row : DeliveryRecord} (accounted : Accounted config state row)
    (grows : Grows state next) (same : recordings row.id next.log = recordings row.id state.log) :
    Accounted config next row := by
  refine ⟨accounted.failed, ?_, accounted.attempts.trans same.symm, ?_⟩
  · intro delivered
    obtain ⟨event, member, delivers⟩ := accounted.delivered delivered
    exact ⟨event, grows.log.subset member, delivers⟩
  · exact Int.le_trans accounted.due (Int.add_le_add_right grows.now _)

/-- The lease in whole seconds is no longer than the lease. -/
theorem makeInterval_leaseSecs_le (config : DeliveryConfig) :
    makeInterval config.leaseSecs ≤ config.lease := by
  have wraps : config.leaseSecs ≤ (config.lease / 1000000 : ℕ) :=
    bmod_le_self (Int.natCast_nonneg _) _
  have whole : config.lease / 1000000 * 1000000 ≤ config.lease := Nat.div_mul_le_self _ _
  simp only [makeInterval]
  omega

/-- A row of a delivery without recorded outcomes. -/
theorem Kept.recordings_fresh (kept : Kept config state) {id : String}
    (fresh : ∀ row ∈ state.db.webhookDeliveries, row.id ≠ id) : recordings id state.log = 0 := by
  refine List.countP_eq_zero.mpr ?_
  intro event member records
  obtain ⟨row, there, same⟩ := kept.logged event member id (of_decide_eq_true records)
  exact fresh row there same

/-- A row after a justified outcome of a claim that read no more attempts than it has. -/
theorem Accounted.record {row : DeliveryRecord} (before : Accounted config state row)
    (grows : Grows state next) {delivery : DueDelivery} {outcome : DeliveryOutcome}
    (sound : OutcomeSound config next delivery outcome) (same : delivery.id = row.id)
    (read : delivery.attempts ≤ row.attempts)
    (count : recordings row.id next.log = recordings row.id state.log + 1) (now : DateTime) :
    Accounted config next (Db.recordedRow now outcome row) := by
  have attempts : row.attempts + 1 = recordings row.id next.log := by
    rw [count, before.attempts]
  have later : state.now + max config.lease config.maxBackoff ≤
      next.now + max config.lease config.maxBackoff := Int.add_le_add_right grows.now _
  have due := Int.le_trans before.due later
  cases outcome with
  | delivered status =>
      obtain ⟨event, member, delivers⟩ := sound
      rw [same] at delivers
      exact ⟨by rintro ⟨⟩, fun _ => ⟨event, member, delivers⟩, attempts, due⟩
  | retry status error nextAttemptAt =>
      refine ⟨?_, ?_, attempts, ?_⟩
      · intro failed
        have enough := before.failed failed
        simp only [Db.recordedRow]
        omega
      · intro delivered
        obtain ⟨event, member, delivers⟩ := before.delivered delivered
        exact ⟨event, grows.log.subset member, delivers⟩
      · have longest : (config.maxBackoff : ℤ) ≤ max config.lease config.maxBackoff :=
          Int.ofNat_le.mpr (Nat.le_max_right _ _)
        exact Int.le_trans sound (Int.add_le_add_left longest _)
  | failed status error =>
      refine ⟨?_, by rintro ⟨⟩, attempts, due⟩
      intro _
      have enough : config.maxAttempts ≤ delivery.attempts + 1 := sound
      simp only [Db.recordedRow]
      omega

theorem Stepped.rows (stepped : Stepped config state action next) (kept : Kept config state) :
    ∀ row ∈ next.db.webhookDeliveries, Accounted config next row := by
  have grows := stepped.grows
  cases stepped with
  | ticked elapsed =>
      intro row member
      exact (kept.rows row member).grow grows rfl
  | emitted started draws projectId kind resourceId data simulated early taken =>
      intro row member
      rcases List.mem_append.mp member with old | new
      · exact (kept.rows row old).grow grows rfl
      · obtain ⟨endpoint, enabled, rfl⟩ := List.mem_map.mp new
        refine ⟨?_, ?_, ?_, ?_⟩
        · rintro ⟨⟩
        · rintro ⟨⟩
        · exact (kept.recordings_fresh (taken.2.2 endpoint enabled)).symm
        · have later : started ≤ state.now + max config.lease config.maxBackoff :=
            Int.le_trans early (Int.le_add_of_nonneg_right (Int.natCast_nonneg _))
          exact later
  | endpointsSet _ endpoints unique =>
      intro row member
      exact (kept.rows row member).grow grows rfl
  | claimed worker locked due idle taken distinct =>
      intro row member
      obtain ⟨old, oldMember, rfl⟩ := mem_updateWhere.mp member
      have before := (kept.rows old oldMember).grow grows rfl
      split
      · refine ⟨before.failed, before.delivered, before.attempts, ?_⟩
        have bound : makeInterval config.leaseSecs ≤ max config.lease config.maxBackoff :=
          Int.le_trans (makeInterval_leaseSecs_le config)
            (Int.ofNat_le.mpr (Nat.le_max_left _ _))
        exact Int.add_le_add_left bound _
      · exact before
  | started worker leaseEnd current rest holding =>
      intro row member
      refine (kept.rows row member).grow grows (recordings_cons_of_not ?_ _)
      exact id
  | answered worker response leaseEnd since current rest sending =>
      intro row member
      refine (kept.rows row member).grow grows (recordings_cons_of_not ?_ _)
      exact id
  | recorded worker leaseEnd current outcome rest answered =>
      intro row member
      obtain ⟨old, oldMember, rfl⟩ := mem_updateWhere.mp member
      have before := kept.rows old oldMember
      have count := recordings_recorded old.id worker current.id outcome state.log
      by_cases here : old.id = current.id
      · rw [if_pos here]
        have holds : current ∈ (state.phases worker).held := by
          rw [answered]
          exact List.mem_cons_self
        obtain ⟨row, there, same, read⟩ := kept.held worker current holds
        cases kept.keyed.unique.eq_of_key there oldMember (same.trans here.symm)
        rw [if_pos here.symm] at count
        exact before.record grows ((kept.answered _ _ _ _ _ answered).grow grows) here.symm read
          count state.now
      · rw [if_neg here]
        rw [if_neg fun same => here same.symm] at count
        exact before.grow grows count
  | dropped _ worker =>
      intro row member
      exact (kept.rows row member).grow grows rfl
  | replayed projectId id =>
      intro row member
      obtain ⟨old, oldMember, rfl⟩ := mem_updateWhere.mp member
      have other : ¬ (DeliveryEvent.replayed id).Records old.id := not_false
      have same := recordings_cons_of_not other state.log
      have before := (kept.rows old oldMember).grow grows same
      split
      · refine ⟨?_, ?_, before.attempts, ?_⟩
        · rintro ⟨⟩
        · rintro ⟨⟩
        · exact Int.le_add_of_nonneg_right (Int.natCast_nonneg _)
      · exact before
  | unchanged _ => exact kept.rows

/-- An outcome a worker is about to record was decided before, or just now. -/
theorem Stepped.answered_cases (stepped : Stepped config state action next) {worker : ℕ}
    {leaseEnd : DateTime} {current : DueDelivery} {outcome : DeliveryOutcome}
    {rest : List DueDelivery}
    (decided : next.phases worker = .answered leaseEnd current outcome rest) :
    state.phases worker = .answered leaseEnd current outcome rest ∨
      OutcomeSound config next current outcome := by
  have kept : ∀ (other : ℕ) (phase : Phase),
      (∀ leaseEnd current outcome rest, phase ≠ .answered leaseEnd current outcome rest) →
      Function.update state.phases other phase worker = .answered leaseEnd current outcome rest →
      state.phases worker = .answered leaseEnd current outcome rest := by
    intro other phase never decided
    by_cases same : worker = other
    · subst same
      rw [Function.update_self] at decided
      exact absurd decided (never _ _ _ _)
    · rw [Function.update_of_ne same] at decided
      exact decided
  have resumes : ∀ (leaseEnd : DateTime) (due : List DueDelivery) (other : DateTime)
      (current : DueDelivery) (outcome : DeliveryOutcome) (rest : List DueDelivery),
      Phase.resume leaseEnd due ≠ .answered other current outcome rest := by
    intro leaseEnd due other current outcome rest
    cases due with
    | nil => rintro ⟨⟩
    | cons head tail => rintro ⟨⟩
  cases stepped with
  | ticked elapsed => exact .inl decided
  | emitted started draws projectId kind resourceId data simulated early taken => exact .inl decided
  | endpointsSet _ endpoints unique => exact .inl decided
  | claimed claimer locked due idle taken distinct =>
      exact .inl (kept claimer _ (resumes _ due) decided)
  | started sender until_ first others holding =>
      exact .inl (kept sender _ (by rintro _ _ _ _ ⟨⟩) decided)
  | answered sender response until_ since first others sending =>
      by_cases same : worker = sender
      · subst same
        simp only [withEntry, withPhase, Function.update_self, Phase.answered.injEq] at decided
        obtain ⟨-, rfl, rfl, -⟩ := decided
        exact .inr (attempt_sound worker first response)
      · simp only [withEntry, withPhase, Function.update_of_ne same] at decided
        exact .inl decided
  | recorded sender until_ first made others answered =>
      exact .inl (kept sender _ (resumes _ others) decided)
  | dropped _ other => exact .inl (kept other _ (by rintro _ _ _ _ ⟨⟩) decided)
  | replayed projectId id => exact .inl decided
  | unchanged _ => exact .inl decided

/-- Outcomes are recorded for deliveries that have a row. -/
theorem Stepped.logged (stepped : Stepped config state action next) (kept : Kept config state) :
    ∀ event ∈ next.log, ∀ id, event.Records id →
      ∃ row ∈ state.db.webhookDeliveries, row.id = id := by
  cases stepped with
  | started worker leaseEnd current rest holding =>
      rintro event member id records
      rcases List.mem_cons.mp member with rfl | old
      · cases records
      · exact kept.logged event old id records
  | answered worker response leaseEnd since current rest sending =>
      rintro event member id records
      rcases List.mem_cons.mp member with rfl | old
      · cases records
      · exact kept.logged event old id records
  | recorded worker leaseEnd current outcome rest answered =>
      rintro event member id records
      rcases List.mem_cons.mp member with rfl | old
      · have holds : current ∈ (state.phases worker).held := by
          rw [answered]
          exact List.mem_cons_self
        obtain ⟨row, there, same, -⟩ := kept.held worker current holds
        exact ⟨row, there, same.trans records⟩
      · exact kept.logged event old id records
  | replayed projectId other =>
      rintro event member id records
      rcases List.mem_cons.mp member with rfl | old
      · cases records
      · exact kept.logged event old id records
  | ticked elapsed => exact kept.logged
  | emitted started draws projectId kind resourceId data simulated early taken => exact kept.logged
  | endpointsSet _ endpoints unique => exact kept.logged
  | claimed worker locked due idle taken distinct => exact kept.logged
  | dropped _ worker => exact kept.logged
  | unchanged _ => exact kept.logged

theorem Kept.step (kept : Kept config state) (stepped : Stepped config state action next) :
    Kept config next := by
  have grows := stepped.grows
  refine ⟨stepped.keyed kept.keyed, stepped.rows kept, ?_, ?_, ?_⟩
  · intro worker delivery member
    obtain ⟨row, there, same, read⟩ : ∃ row ∈ state.db.webhookDeliveries,
        row.id = delivery.id ∧ delivery.attempts ≤ row.attempts := by
      rcases stepped.held kept.keyed worker member with
        before | ⟨row, there, same, attempts, -⟩
      · exact kept.held worker delivery before
      · exact ⟨row, there, same, Nat.le_of_eq attempts.symm⟩
    obtain ⟨other, found, later⟩ := grows.rows row there
    exact ⟨other, found, later.id.trans same, read.trans later.attempts⟩
  · intro worker leaseEnd current outcome rest decided
    rcases stepped.answered_cases decided with before | sound
    · exact (kept.answered worker leaseEnd current outcome rest before).grow grows
    · exact sound
  · intro event member id records
    obtain ⟨row, there, same⟩ := stepped.logged kept event member id records
    obtain ⟨other, found, later⟩ := grows.rows row there
    exact ⟨other, found, later.id.trans same⟩

theorem kept_of_reachable (reached : (delivering config).Reachable state) : Kept config state := by
  refine reached.invariant (Kept config) ?_ ?_
  · rintro ⟨now, db, phases, log⟩ ⟨rfl, idle, rfl⟩
    refine ⟨⟨KeyUnique.nil, KeyUnique.nil⟩, by rintro _ ⟨⟩, ?_, ?_, by rintro _ ⟨⟩⟩
    · intro worker delivery member
      rw [idle worker] at member
      cases member
    · intro worker leaseEnd current outcome rest decided
      rw [idle worker] at decided
      cases decided
  · intro state action next _ kept step
    exact kept.step (step_stepped step)

theorem grows_of_leads {earlier later : DeliveryState}
    (reached : (delivering config).Reachable earlier)
    (leads : (delivering config).Leads earlier later) : Grows earlier later :=
  leads.induct Grows .refl (fun _ _ _ => .trans)
    (fun _ _ _ _ step => (step_stepped step).grows) reached

end DeliveryState

/-- **Deliveries are made at least once.** In every reachable state every row is
accounted for by the history of its delivery, and no row is ever removed. -/
theorem delivered_at_least_once (config : DeliveryConfig) {state : DeliveryState}
    (reached : (delivering config).Reachable state) :
    (∀ row ∈ state.db.webhookDeliveries, state.Accounted config row) ∧
      ∀ later, (delivering config).Leads state later →
        LaterRows state.db.webhookDeliveries later.db.webhookDeliveries :=
  ⟨(DeliveryState.kept_of_reachable reached).rows,
    fun _ leads => (DeliveryState.grows_of_leads reached leads).rows⟩

/-- One delivery whose first request is answered with an error. -/
def rejectedActions : List DeliveryAction := [
  .createEndpoint "we_1" "proj_1" "https://example.test/hook" "whsec_1",
  .emit 0 .counting "proj_1" "invoice.paid" "inv_1" .null false,
  .claim 0 [],
  .start 0,
  .answer 0 (.ok 500),
  .record 0]

theorem delivered_at_least_once_rejected : ∃ state,
    (delivering {}).run ⟨0, {}, fun _ => .idle, []⟩ rejectedActions = some state ∧
    state.db.webhookDeliveries.map (fun row => (row.attempts, row.nextAttemptAt)) =
      [(1, 5000000)] ∧
    (∀ row ∈ state.db.webhookDeliveries, state.Accounted {} row) ∧
      ∀ later, (delivering {}).Leads state later →
        LaterRows state.db.webhookDeliveries later.db.webhookDeliveries := by
  obtain ⟨state, ran, rows⟩ : ∃ state,
      (delivering {}).run ⟨0, {}, fun _ => .idle, []⟩ rejectedActions = some state ∧
      state.db.webhookDeliveries.map (fun row => (row.attempts, row.nextAttemptAt)) =
        [(1, 5000000)] := ⟨_, rfl, rfl⟩
  exact ⟨state, ran, rows, delivered_at_least_once {}
    (Machine.reachable_of_run ⟨rfl, fun _ => rfl, rfl⟩ ran)⟩

end Safrod

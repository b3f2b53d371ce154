import Safrod.Webhooks.AtLeastOnce

/-!
# Leases

One lease covers a batch of up to twenty deliveries, which the worker sends one after
another. With requests of ten seconds a lease of a minute runs out after six of them,
and the rest of the batch is due again while the worker still goes through it.
An outcome is recorded whatever became of the delivery since its claim.

* `LeasesHeld` is what leases are for: a send starts under its worker's lease, no
  delivery is in two hands, and nothing fails after it was delivered.
* `WithinLease` is the condition on a run: no worker's lease runs out over a batch
  it has not finished, and no delivery in a worker's hands is replayed.
* `leases_held` says that the condition is enough for every run.
-/

set_option autoImplicit false

namespace Safrod

open Table

/-- What leases promise of a run, seen from one of its states. -/
structure LeasesHeld (state : DeliveryState) : Prop where
  sends : ∀ worker id time leaseEnd, .started worker id time leaseEnd ∈ state.log →
    time < leaseEnd
  exclusive : ∀ first second, first ≠ second → ∀ one ∈ (state.phases first).held,
    ∀ other ∈ (state.phases second).held, one.id ≠ other.id
  final : ∀ newer worker id status error between sender code older,
    state.log = newer ++ .recorded worker id (.failed status error) ::
      (between ++ .recorded sender id (.delivered code) :: older) → .replayed id ∈ between

/-- A request takes no longer than its timeout. -/
def Timely (config : DeliveryConfig) (state : DeliveryState) : DeliveryAction → Prop
  | .tick elapsed => ∀ worker leaseEnd since current rest,
      state.phases worker = .sending leaseEnd since current rest →
        state.now + elapsed ≤ since + config.requestTimeout
  | _ => True

/-- Time does not reach the end of the lease of a batch that is not finished, and a
delivery in a worker's hands is not replayed. -/
def WithinLease (state : DeliveryState) : DeliveryAction → Prop
  | .tick elapsed => ∀ worker leaseEnd, (state.phases worker).LeasedUntil leaseEnd →
      (state.phases worker).held ≠ [] → state.now + elapsed < leaseEnd
  | .replay _ id => ∀ worker, ∀ delivery ∈ (state.phases worker).held, delivery.id ≠ id
  | _ => True

namespace DeliveryState

variable {config : DeliveryConfig} {state next : DeliveryState} {action : DeliveryAction}

/-- The claims workers hold: each delivery in one hand, its row pending and leased to
the end of the holder's lease, which is still running. -/
structure Leased (state : DeliveryState) : Prop where
  exclusive : ∀ first second, first ≠ second → ∀ one ∈ (state.phases first).held,
    ∀ other ∈ (state.phases second).held, one.id ≠ other.id
  once : ∀ worker, KeyUnique (fun delivery : DueDelivery => delivery.id)
    (state.phases worker).held
  running : ∀ worker leaseEnd, (state.phases worker).LeasedUntil leaseEnd →
    (state.phases worker).held ≠ [] → state.now < leaseEnd
  rows : ∀ worker leaseEnd, (state.phases worker).LeasedUntil leaseEnd →
    ∀ delivery ∈ (state.phases worker).held, ∀ row ∈ state.db.webhookDeliveries,
      row.id = delivery.id → row.status = .pending ∧ leaseEnd ≤ row.nextAttemptAt


/-! ## Claims in one hand -/

/-- A step after which workers hold less, and the rows of what they hold say the same. -/
theorem Leased.shrink (leased : Leased state) (now : next.now = state.now)
    (held : ∀ worker, ((next.phases worker).held).Sublist (state.phases worker).held)
    (until_ : ∀ worker leaseEnd, (next.phases worker).LeasedUntil leaseEnd →
      (state.phases worker).LeasedUntil leaseEnd)
    (rows : ∀ worker, ∀ delivery ∈ (next.phases worker).held,
      ∀ row ∈ next.db.webhookDeliveries, row.id = delivery.id →
        ∃ old ∈ state.db.webhookDeliveries, old.id = delivery.id ∧ row.status = old.status ∧
          row.nextAttemptAt = old.nextAttemptAt) : Leased next := by
  refine ⟨?_, ?_, ?_, ?_⟩
  · intro first second apart one oneHeld other otherHeld
    exact leased.exclusive first second apart one ((held first).subset oneHeld) other
      ((held second).subset otherHeld)
  · intro worker
    exact List.Nodup.sublist ((held worker).map _) (leased.once worker)
  · intro worker leaseEnd ends some_
    rw [now]
    refine leased.running worker leaseEnd (until_ worker leaseEnd ends) ?_
    intro none_
    have fewer := held worker
    rw [none_] at fewer
    exact some_ (List.sublist_nil.mp fewer)
  · intro worker leaseEnd ends delivery member row there same
    obtain ⟨old, oldMember, oldSame, status, nextAttemptAt⟩ :=
      rows worker delivery member row there same
    rw [status, nextAttemptAt]
    exact leased.rows worker leaseEnd (until_ worker leaseEnd ends) delivery
      ((held worker).subset member) old oldMember oldSame

/-- A step that leaves clock and workers alone, and the rows of what they hold. -/
theorem Leased.same (leased : Leased state) (now : next.now = state.now)
    (phases : next.phases = state.phases)
    (rows : ∀ worker, ∀ delivery ∈ (state.phases worker).held,
      ∀ row ∈ next.db.webhookDeliveries, row.id = delivery.id →
        row ∈ state.db.webhookDeliveries) : Leased next := by
  refine leased.shrink now ?_ ?_ ?_
  · intro worker
    rw [phases]
  · intro worker leaseEnd ends
    rw [phases] at ends
    exact ends
  · intro worker delivery member row there same
    rw [phases] at member
    exact ⟨row, rows worker delivery member row there same, same, rfl, rfl⟩

/-- A step of one worker that goes on with part of what it holds. -/
theorem Leased.withPhase (leased : Leased state) (worker : ℕ) (phase : Phase)
    (now : next.now = state.now)
    (phases : next.phases = Function.update state.phases worker phase)
    (fewer : phase.held.Sublist (state.phases worker).held)
    (until_ : ∀ leaseEnd, phase.LeasedUntil leaseEnd →
      (state.phases worker).LeasedUntil leaseEnd)
    (rows : ∀ other, ∀ delivery ∈ (Function.update state.phases worker phase other).held,
      ∀ row ∈ next.db.webhookDeliveries, row.id = delivery.id →
        row ∈ state.db.webhookDeliveries) : Leased next := by
  refine leased.shrink now ?_ ?_ ?_
  · intro other
    rw [phases]
    by_cases same : other = worker
    · subst same
      rw [Function.update_self]
      exact fewer
    · rw [Function.update_of_ne same]
  · intro other leaseEnd ends
    rw [phases] at ends
    by_cases same : other = worker
    · subst same
      rw [Function.update_self] at ends
      exact until_ leaseEnd ends
    · rw [Function.update_of_ne same] at ends
      exact ends
  · intro other delivery member row there same
    rw [phases] at member
    exact ⟨row, rows other delivery member row there same, same, rfl, rfl⟩

/-- A delivery in a worker's hands is not due. -/
theorem Leased.not_claimed (leased : Leased state) {worker : ℕ}
    {delivery : DueDelivery} (member : delivery ∈ (state.phases worker).held)
    {locked : List String} : delivery.id ∉ state.db.claimedIds state.now 20 locked := by
  intro claimed
  obtain ⟨row, there, same, -, due, -⟩ := Db.claimable_of_mem_claimedIds claimed
  obtain ⟨leaseEnd, ends⟩ : ∃ leaseEnd, (state.phases worker).LeasedUntil leaseEnd := by
    cases phase : state.phases worker with
    | idle =>
        rw [phase] at member
        cases member
    | holding leaseEnd due => exact ⟨leaseEnd, rfl⟩
    | sending leaseEnd since current rest => exact ⟨leaseEnd, rfl⟩
    | answered leaseEnd current outcome rest => exact ⟨leaseEnd, rfl⟩
  have running := leased.running worker leaseEnd ends (List.ne_nil_of_mem member)
  have later := (leased.rows worker leaseEnd ends delivery member row there same).2
  exact absurd (Int.le_trans later due) (Int.not_le.mpr running)

theorem Leased.claim (leased : Leased state) (keyed : Keyed state.db)
    (lasting : 0 < makeInterval config.leaseSecs) (worker : ℕ) (locked : List String)
    (due : List DueDelivery) (idle : state.phases worker = .idle)
    (taken : ∀ delivery ∈ due, ∃ row ∈ state.db.webhookDeliveries, row.id = delivery.id ∧
      row.attempts = delivery.attempts ∧ row.id ∈ state.db.claimedIds state.now 20 locked)
    (distinct : KeyUnique (fun delivery : DueDelivery => delivery.id) due) :
    Leased ((state.withDb (state.db.withLeased (state.db.claimedIds state.now 20 locked)
      (state.now + makeInterval config.leaseSecs))).withPhase worker
        (.resume (state.now + makeInterval config.leaseSecs) due)) := by
  have claimed : ∀ delivery ∈ due, delivery.id ∈ state.db.claimedIds state.now 20 locked := by
    intro delivery member
    obtain ⟨row, -, same, -, chosen⟩ := taken delivery member
    rw [← same]
    exact chosen
  refine ⟨?_, ?_, ?_, ?_⟩
  · intro first second apart one oneHeld other otherHeld same
    by_cases isFirst : first = worker
    · subst isFirst
      simp only [DeliveryState.withPhase, withDb, Function.update_self, Phase.held_resume,
        Function.update_of_ne apart.symm] at oneHeld otherHeld
      exact leased.not_claimed otherHeld (same ▸ claimed one oneHeld)
    · by_cases isSecond : second = worker
      · subst isSecond
        simp only [DeliveryState.withPhase, withDb, Function.update_self, Phase.held_resume,
          Function.update_of_ne isFirst] at oneHeld otherHeld
        exact leased.not_claimed oneHeld (same ▸ claimed other otherHeld)
      · simp only [DeliveryState.withPhase, withDb, Function.update_of_ne isFirst,
          Function.update_of_ne isSecond] at oneHeld otherHeld
        exact leased.exclusive first second apart one oneHeld other otherHeld same
  · intro other
    by_cases same : other = worker
    · subst same
      simp only [DeliveryState.withPhase, withDb, Function.update_self, Phase.held_resume]
      exact distinct
    · simp only [DeliveryState.withPhase, withDb, Function.update_of_ne same]
      exact leased.once other
  · intro other leaseEnd ends some_
    by_cases same : other = worker
    · subst same
      simp only [DeliveryState.withPhase, withDb, Function.update_self] at ends
      rw [← Phase.leasedUntil_resume ends]
      exact Int.lt_add_of_pos_right _ lasting
    · simp only [DeliveryState.withPhase, withDb, Function.update_of_ne same] at ends some_
      exact leased.running other leaseEnd ends some_
  · intro other leaseEnd ends delivery member row there same
    obtain ⟨old, oldMember, rfl⟩ := mem_updateWhere.mp there
    have sameId : old.id = delivery.id := by
      rw [← same]
      split
      · rfl
      · rfl
    by_cases isWorker : other = worker
    · subst isWorker
      simp only [DeliveryState.withPhase, withDb, Function.update_self, Phase.held_resume]
        at ends member
      have chosen : old.id ∈ state.db.claimedIds state.now 20 locked :=
        sameId ▸ claimed delivery member
      have pending : old.status = .pending := keyed.pending_of_claimed oldMember chosen
      rw [if_pos chosen, ← Phase.leasedUntil_resume ends]
      exact ⟨pending, Int.le_refl _⟩
    · simp only [DeliveryState.withPhase, withDb, Function.update_of_ne isWorker] at ends member
      have others : old.id ∉ state.db.claimedIds state.now 20 locked :=
        sameId ▸ leased.not_claimed member
      rw [if_neg others]
      exact leased.rows other leaseEnd ends delivery member old oldMember sameId

/-- **A step within the leases keeps every claim in one hand.** -/
theorem Leased.step (leased : Leased state) (kept : Kept config state)
    (lasting : 0 < makeInterval config.leaseSecs)
    (stepped : Stepped config state action next) (within : WithinLease state action) :
    Leased next := by
  cases stepped with
  | ticked elapsed => exact ⟨leased.exclusive, leased.once, within, leased.rows⟩
  | emitted started draws projectId kind resourceId data simulated early taken =>
      refine leased.same rfl rfl ?_
      intro worker delivery member row there same
      rcases List.mem_append.mp there with old | new
      · exact old
      · obtain ⟨endpoint, enabled, rfl⟩ := List.mem_map.mp new
        obtain ⟨old, oldMember, oldSame, -⟩ := kept.held worker delivery member
        exact absurd (oldSame.trans same.symm) (taken.2.2 endpoint enabled old oldMember)
  | endpointsSet _ endpoints unique =>
      exact leased.same rfl rfl fun _ _ _ _ there _ => there
  | claimed worker locked due idle taken distinct =>
      exact leased.claim kept.keyed lasting worker locked due idle taken
        (distinct kept.keyed.unique)
  | started worker leaseEnd current rest holding =>
      refine leased.withPhase worker (.sending leaseEnd state.now current rest) rfl rfl ?_ ?_
        fun _ _ _ _ there _ => there
      · rw [holding]
        exact List.Sublist.refl _
      · intro other ends
        rw [holding]
        exact ends
  | answered worker response leaseEnd since current rest sending =>
      refine leased.withPhase worker (.answered leaseEnd current _ rest) rfl rfl ?_ ?_
        fun _ _ _ _ there _ => there
      · rw [sending]
        exact List.Sublist.refl _
      · intro other ends
        rw [sending]
        exact ends
  | recorded worker leaseEnd current outcome rest answered =>
      have first : current ∈ (state.phases worker).held := by
        rw [answered]
        exact List.mem_cons_self
      refine leased.withPhase worker (.resume leaseEnd rest) rfl rfl ?_ ?_ ?_
      · rw [answered, Phase.held_resume]
        exact List.sublist_cons_self current rest
      · intro other ends
        rw [answered]
        exact Phase.leasedUntil_resume ends
      · intro other delivery member row there same
        have apart : delivery.id ≠ current.id := by
          by_cases isWorker : other = worker
          · subst isWorker
            rw [Function.update_self, Phase.held_resume] at member
            have once := leased.once other
            rw [answered] at once
            intro again
            exact (List.nodup_cons.mp once).1 (List.mem_map.mpr ⟨delivery, member, again⟩)
          · rw [Function.update_of_ne isWorker] at member
            exact leased.exclusive other worker isWorker delivery member current first
        rcases mem_updateWhere_key.mp there with ⟨old, -, chosen, rfl⟩ | ⟨oldMember, -⟩
        · rw [(laterRow_recordedRow state.now outcome old).id] at same
          exact absurd (same.symm.trans chosen) apart
        · exact oldMember
  | dropped _ worker =>
      refine leased.withPhase worker .idle rfl rfl (List.nil_sublist _) ?_
        fun _ _ _ _ there _ => there
      rintro _ ⟨⟩
  | replayed projectId id =>
      refine leased.same rfl rfl ?_
      intro worker delivery member row there same
      obtain ⟨old, oldMember, rfl⟩ := mem_updateWhere.mp there
      split at same
      · rename_i chosen
        exact absurd (same.symm.trans chosen.1) (within worker delivery member)
      · rename_i others
        rw [if_neg others]
        exact oldMember
  | unchanged _ => exact leased

/-! ## What was delivered stays delivered -/

/-- The delivery is out of every hand, and its row says delivered. -/
structure Finished (state : DeliveryState) (id : String) : Prop where
  rows : ∀ row ∈ state.db.webhookDeliveries, row.id = id → row.status = .delivered
  free : ∀ worker, ∀ delivery ∈ (state.phases worker).held, delivery.id ≠ id

/-- A step that is not a replay of the delivery keeps it finished. -/
theorem Finished.step {id : String} (finished : Finished state id) (keyed : Keyed state.db)
    (known : ∃ row ∈ state.db.webhookDeliveries, row.id = id)
    (stepped : Stepped config state action next)
    (other : next.log ≠ .replayed id :: state.log) : Finished next id := by
  refine ⟨?_, ?_⟩
  · cases stepped with
    | ticked elapsed => exact finished.rows
    | emitted started draws projectId kind resourceId data simulated early taken =>
        intro row member same
        rcases List.mem_append.mp member with old | new
        · exact finished.rows row old same
        · obtain ⟨endpoint, enabled, rfl⟩ := List.mem_map.mp new
          obtain ⟨old, oldMember, oldSame⟩ := known
          exact absurd (oldSame.trans same.symm) (taken.2.2 endpoint enabled old oldMember)
    | endpointsSet _ endpoints unique => exact finished.rows
    | claimed worker locked due idle taken distinct =>
        intro row member same
        obtain ⟨old, oldMember, rfl⟩ := mem_updateWhere.mp member
        split at same
        · rename_i chosen
          rw [if_pos chosen]
          exact finished.rows old oldMember same
        · rename_i others
          rw [if_neg others]
          exact finished.rows old oldMember same
    | started worker leaseEnd current rest holding => exact finished.rows
    | answered worker response leaseEnd since current rest sending => exact finished.rows
    | recorded worker leaseEnd current outcome rest answered =>
        intro row member same
        rcases mem_updateWhere_key.mp member with ⟨old, -, chosen, rfl⟩ | ⟨oldMember, -⟩
        · have holds : current ∈ (state.phases worker).held := by
            rw [answered]
            exact List.mem_cons_self
          rw [(laterRow_recordedRow state.now outcome old).id] at same
          exact absurd (chosen.symm.trans same) (finished.free worker current holds)
        · exact finished.rows row oldMember same
    | dropped _ worker => exact finished.rows
    | replayed projectId replayedId =>
        intro row member same
        obtain ⟨old, oldMember, rfl⟩ := mem_updateWhere.mp member
        split at same
        · rename_i chosen
          have here : replayedId = id := chosen.1.symm.trans same
          rw [here] at other
          exact absurd rfl other
        · rename_i others
          rw [if_neg others]
          exact finished.rows old oldMember same
    | unchanged _ => exact finished.rows
  · intro worker delivery member same
    rcases stepped.held keyed worker member with before | ⟨row, there, rowSame, -, pending⟩
    · exact finished.free worker delivery before same
    · have delivered := finished.rows row there (rowSame.trans same)
      rw [pending] at delivered
      cases delivered

/-! ### The history of a step -/

theorem Stepped.log_cases (stepped : Stepped config state action next) :
    next.log = state.log ∨ ∃ entry, next.log = entry :: state.log := by
  cases stepped with
  | started worker leaseEnd current rest holding => exact .inr ⟨_, rfl⟩
  | answered worker response leaseEnd since current rest sending => exact .inr ⟨_, rfl⟩
  | recorded worker leaseEnd current outcome rest answered => exact .inr ⟨_, rfl⟩
  | replayed projectId id => exact .inr ⟨_, rfl⟩
  | ticked elapsed => exact .inl rfl
  | emitted started draws projectId kind resourceId data simulated early taken => exact .inl rfl
  | endpointsSet _ endpoints unique => exact .inl rfl
  | claimed worker locked due idle taken distinct => exact .inl rfl
  | dropped _ worker => exact .inl rfl
  | unchanged _ => exact .inl rfl

/-- What a new entry of the history tells of the step that wrote it. -/
def Written (state next : DeliveryState) : DeliveryEvent → Prop
  | .started worker id time leaseEnd => ∃ current rest,
      state.phases worker = .holding leaseEnd (current :: rest) ∧ current.id = id ∧
        time = state.now
  | .recorded worker id outcome => ∃ leaseEnd current rest,
      state.phases worker = .answered leaseEnd current outcome rest ∧ current.id = id ∧
        next.phases = Function.update state.phases worker (.resume leaseEnd rest) ∧
        next.db = state.db.withRecorded state.now id outcome
  | _ => True

theorem Stepped.written (stepped : Stepped config state action next) {entry : DeliveryEvent}
    (grown : next.log = entry :: state.log) : Written state next entry := by
  have unchanged : state.log ≠ entry :: state.log := (List.cons_ne_self entry state.log).symm
  cases stepped with
  | started worker leaseEnd current rest holding =>
      cases grown
      exact ⟨current, rest, holding, rfl, rfl⟩
  | answered worker response leaseEnd since current rest sending =>
      cases grown
      trivial
  | recorded worker leaseEnd current outcome rest answered =>
      cases grown
      exact ⟨leaseEnd, current, rest, answered, rfl, rfl, rfl⟩
  | replayed projectId id =>
      cases grown
      trivial
  | ticked elapsed => exact absurd grown unchanged
  | emitted started draws projectId kind resourceId data simulated early taken =>
      exact absurd grown unchanged
  | endpointsSet _ endpoints unique => exact absurd grown unchanged
  | claimed worker locked due idle taken distinct => exact absurd grown unchanged
  | dropped _ worker => exact absurd grown unchanged
  | unchanged _ => exact absurd grown unchanged

/-- A delivery recorded delivered leaves the only hand it was in. -/
theorem Leased.finished (leased : Leased state) {worker : ℕ} {id : String} {code : ℤ}
    (written : Written state next (.recorded worker id (.delivered code))) :
    Finished next id := by
  obtain ⟨leaseEnd, current, rest, answered, rfl, phases, db⟩ := written
  have held : (state.phases worker).held = current :: rest := by
    rw [answered]
    rfl
  refine ⟨?_, ?_⟩
  · intro row member same
    rw [db] at member
    rcases mem_updateWhere_key.mp member with ⟨old, -, -, rfl⟩ | ⟨-, other⟩
    · rfl
    · exact absurd same other
  · intro other delivery member
    rw [phases] at member
    by_cases isWorker : other = worker
    · subst isWorker
      rw [Function.update_self, Phase.held_resume] at member
      have once := leased.once other
      rw [held] at once
      intro again
      exact (List.nodup_cons.mp once).1 (List.mem_map.mpr ⟨delivery, member, again⟩)
    · rw [Function.update_of_ne isWorker] at member
      refine leased.exclusive other worker isWorker delivery member current ?_
      rw [held]
      exact List.mem_cons_self

/-- A delivery recorded delivered and not replayed since is finished. -/
def Settled (state : DeliveryState) : Prop :=
  ∀ between worker id code older,
    state.log = between ++ .recorded worker id (.delivered code) :: older →
    .replayed id ∉ between → Finished state id

theorem Settled.step (settled : Settled state) (kept : Kept config state)
    (leased : Leased state) (stepped : Stepped config state action next) : Settled next := by
  intro between worker id code older shape fresh
  have known : ∀ older_ between_, state.log =
      between_ ++ .recorded worker id (.delivered code) :: older_ →
      ∃ row ∈ state.db.webhookDeliveries, row.id = id := by
    intro older_ between_ shape
    refine kept.logged (.recorded worker id (.delivered code)) ?_ id rfl
    rw [shape]
    exact List.mem_append_right _ List.mem_cons_self
  rcases stepped.log_cases with same | ⟨entry, grown⟩
  · rw [same] at shape
    refine (settled between worker id code older shape fresh).step kept.keyed
      (known older between shape) stepped ?_
    rw [same]
    exact (List.cons_ne_self _ _).symm
  · rw [grown] at shape
    rcases List.cons_eq_append_iff.mp shape with ⟨rfl, newest⟩ | ⟨rest, rfl, deeper⟩
    · cases newest
      exact leased.finished (stepped.written grown)
    · have apart : entry ≠ .replayed id := fun same => fresh (same ▸ List.mem_cons_self)
      refine (settled rest worker id code older deeper fun member =>
        fresh (List.mem_cons_of_mem _ member)).step kept.keyed (known older rest deeper) stepped ?_
      rw [grown]
      intro same
      exact apart (List.cons.inj same).1

/-! ## The leases hold -/

/-- What the runs within their leases keep. -/
structure Safe (state : DeliveryState) : Prop where
  leased : Leased state
  settled : Settled state
  holds : LeasesHeld state

theorem Safe.step (safe : Safe state) (kept : Kept config state)
    (lasting : 0 < makeInterval config.leaseSecs)
    (stepped : Stepped config state action next) (within : WithinLease state action) :
    Safe next := by
  have leased := safe.leased.step kept lasting stepped within
  refine ⟨leased, safe.settled.step kept safe.leased stepped, ?_, leased.exclusive, ?_⟩
  · intro worker id time leaseEnd member
    rcases stepped.log_cases with same | ⟨entry, grown⟩
    · rw [same] at member
      exact safe.holds.sends worker id time leaseEnd member
    · rw [grown] at member
      rcases List.mem_cons.mp member with rfl | old
      · obtain ⟨current, rest, holding, -, rfl⟩ := stepped.written grown
        refine safe.leased.running worker leaseEnd ?_ ?_
        · rw [holding]
          rfl
        · rw [holding]
          exact List.cons_ne_nil current rest
      · exact safe.holds.sends worker id time leaseEnd old
  · intro newer worker id status error between sender code older shape
    rcases stepped.log_cases with same | ⟨entry, grown⟩
    · rw [same] at shape
      exact safe.holds.final newer worker id status error between sender code older shape
    · rw [grown] at shape
      rcases List.cons_eq_append_iff.mp shape with ⟨rfl, newest⟩ | ⟨rest, rfl, deeper⟩
      · obtain ⟨rfl, earlier⟩ := List.cons.inj newest
        by_contra fresh
        have finished := safe.settled between sender id code older earlier.symm fresh
        obtain ⟨leaseEnd, current, rest, answered, same, -⟩ := stepped.written grown
        refine finished.free worker current ?_ same
        rw [answered]
        exact List.mem_cons_self
      · exact safe.holds.final rest worker id status error between sender code older deeper

theorem safe_of_reachableBy (lasting : 0 < makeInterval config.leaseSecs)
    (reached : (delivering config).ReachableBy WithinLease state) : Safe state := by
  refine reached.invariant Safe ?_ ?_
  · rintro ⟨now, db, phases, log⟩ ⟨rfl, idle, rfl⟩
    have idle : phases = fun _ => .idle := funext idle
    subst idle
    refine ⟨⟨?_, ?_, ?_, ?_⟩, ?_, ?_, ?_, ?_⟩
    · rintro _ _ _ _ ⟨⟩
    · intro worker
      exact List.nodup_nil
    · rintro _ _ ⟨⟩
    · rintro _ _ ⟨⟩
    · intro between worker id code older shape
      cases between with
      | nil => cases shape
      | cons head rest => cases shape
    · rintro _ _ _ _ ⟨⟩
    · rintro _ _ _ _ ⟨⟩
    · intro newer worker id status error between sender code older shape
      cases newer with
      | nil => cases shape
      | cons head rest => cases shape
  · intro state action next earlier safe within step
    exact safe.step (kept_of_reachable earlier) lasting (step_stepped step) within

end DeliveryState

/-- **Within its leases a run keeps what leases promise.** -/
theorem leases_held {state : DeliveryState}
    (reached : (delivering {}).ReachableBy WithinLease state) : LeasesHeld state :=
  (DeliveryState.safe_of_reachableBy (by decide) reached).holds

/-- A batch of two deliveries and, in the hands of a second worker, one whose endpoint refuses
it. -/
def promptActions : List DeliveryAction := [
  .createEndpoint "we_1" "proj_1" "https://example.test/hook" "whsec_1",
  .emit 0 .counting "proj_1" "invoice.paid" "inv_1" .null false,
  .emit 0 .counting "proj_1" "invoice.paid" "inv_2" .null false,
  .claim 0 [],
  .emit 0 .counting "proj_1" "invoice.paid" "inv_3" .null false,
  .claim 1 [],
  .start 0,
  .start 1,
  .tick (10 * second),
  .answer 0 (.ok 200),
  .record 0,
  .answer 1 (.ok 500),
  .record 1,
  .start 0,
  .tick (10 * second),
  .answer 0 (.ok 200),
  .record 0]

theorem leases_held_prompt : ∃ state,
    (delivering {}).run ⟨0, {}, fun _ => .idle, []⟩ promptActions = some state ∧
    LeasesHeld state ∧ state.db.webhookDeliveries.map (fun row => (row.status, row.attempts)) =
      [(.delivered, 1), (.delivered, 1), (.pending, 1)] := by
  have start : (delivering {}).ReachableBy WithinLease ⟨0, {}, fun _ => .idle, []⟩ :=
    .start ⟨rfl, fun _ => rfl, rfl⟩
  have within : (delivering {}).StepsMeet WithinLease ⟨0, {}, fun _ => .idle, []⟩
      promptActions := by
    refine .cons trivial rfl (.cons trivial rfl (.cons trivial rfl (.cons trivial rfl
      (.cons trivial rfl (.cons trivial rfl (.cons trivial rfl (.cons trivial rfl
      (.cons ?_ rfl (.cons trivial rfl (.cons trivial rfl (.cons trivial rfl
      (.cons trivial rfl (.cons trivial rfl (.cons ?_ rfl (.cons trivial rfl
      (.cons trivial rfl (.nil _)))))))))))))))))
    · intro worker leaseEnd ends some_
      rcases worker with _ | _ | other
      · have lease : (60000000 : ℤ) = leaseEnd := ends
        rw [← lease]
        decide
      · have lease : (60000000 : ℤ) = leaseEnd := ends
        rw [← lease]
        decide
      · exact absurd rfl some_
    · intro worker leaseEnd ends some_
      rcases worker with _ | _ | other
      · have lease : (60000000 : ℤ) = leaseEnd := ends
        rw [← lease]
        decide
      · exact absurd rfl some_
      · exact absurd rfl some_
  obtain ⟨state, ran, rows⟩ : ∃ state,
      (delivering {}).run ⟨0, {}, fun _ => .idle, []⟩ promptActions = some state ∧
      state.db.webhookDeliveries.map (fun row => (row.status, row.attempts)) =
        [(.delivered, 1), (.delivered, 1), (.pending, 1)] := ⟨_, rfl, rfl⟩
  exact ⟨state, ran, leases_held (Machine.reachableBy_of_run start within ran), rows⟩

/-! ### A batch that outlasts its lease -/

def requestActions : List DeliveryAction := [
  .start 0,
  .tick (10 * second),
  .answer 0 (.ok 200),
  .record 0]

/-- Seven deliveries in one batch. After six requests of ten seconds another worker
claims and sends the last one, and then the first worker sends it too. -/
def slowBatchActions : List DeliveryAction :=
  [.createEndpoint "we_1" "proj_1" "https://example.test/hook" "whsec_1",
    .emit 0 .counting "proj_1" "invoice.paid" "inv_1" .null false,
    .emit 0 .counting "proj_1" "invoice.paid" "inv_2" .null false,
    .emit 0 .counting "proj_1" "invoice.paid" "inv_3" .null false,
    .emit 0 .counting "proj_1" "invoice.paid" "inv_4" .null false,
    .emit 0 .counting "proj_1" "invoice.paid" "inv_5" .null false,
    .emit 0 .counting "proj_1" "invoice.paid" "inv_6" .null false,
    .emit 0 .counting "proj_1" "invoice.paid" "inv_7" .null false,
    .claim 0 []] ++
  (requestActions ++ requestActions ++ requestActions ++ requestActions ++ requestActions ++
    requestActions) ++
  [.claim 1 [],
    .start 1,
    .start 0]

def DeliveryAction.isTick : DeliveryAction → Bool
  | tick _ => true
  | _ => false

theorem timely_of_not_tick {config : DeliveryConfig} {action : DeliveryAction}
    (other : action.isTick = false) (state : DeliveryState) : Timely config state action := by
  cases action with
  | tick elapsed => cases other
  | _ => trivial

/-- A worker's request of ten seconds, when no other worker is at work. -/
theorem timely_request {state : DeliveryState} {leaseEnd : DateTime} {current : DueDelivery}
    {rest : List DueDelivery} (holding : state.phases 0 = .holding leaseEnd (current :: rest))
    (others : ∀ worker, state.phases (worker + 1) = .idle) :
    (delivering {}).StepsMeet (Timely {}) state requestActions := by
  have started : (delivering {}).step state (.start 0) = some ((state.withPhase 0
      (.sending leaseEnd state.now current rest)).withEntry
        (.started 0 current.id state.now leaseEnd)) := by
    simp only [delivering, DeliveryState.step, holding]
  refine .cons trivial started (.cons ?_ rfl (Machine.stepsMeet_of_forall ?_ _))
  · intro worker ends since delivery due sending
    cases worker with
    | zero =>
        cases sending
        exact Int.le_refl _
    | succ other =>
        have quiet : state.phases (other + 1) = .sending ends since delivery due := sending
        rw [others other] at quiet
        cases quiet
  · have quiet : ∀ action ∈ [DeliveryAction.answer 0 (.ok 200), .record 0],
        action.isTick = false := by simp [DeliveryAction.isTick]
    intro action member
    exact timely_of_not_tick (quiet action member)

theorem timely_slowBatchActions :
    (delivering {}).StepsMeet (Timely {}) ⟨0, {}, fun _ => .idle, []⟩ slowBatchActions := by
  have quiet : ∀ {actions : List DeliveryAction} (state : DeliveryState),
      (∀ action ∈ actions, action.isTick = false) →
      (delivering {}).StepsMeet (Timely {}) state actions := by
    intro actions state none_
    exact Machine.stepsMeet_of_forall
      (fun action member => timely_of_not_tick (none_ action member)) state
  refine .append (.append ?_ ?_) ?_
  · exact quiet _ (by simp [DeliveryAction.isTick])
  · rintro _ ⟨⟩
    refine .append (.append (.append (.append (.append ?_ ?_) ?_) ?_) ?_) ?_
    · exact timely_request rfl fun _ => rfl
    · rintro _ ⟨⟩
      exact timely_request rfl fun _ => rfl
    · rintro _ ⟨⟩
      exact timely_request rfl fun _ => rfl
    · rintro _ ⟨⟩
      exact timely_request rfl fun _ => rfl
    · rintro _ ⟨⟩
      exact timely_request rfl fun _ => rfl
    · rintro _ ⟨⟩
      exact timely_request rfl fun _ => rfl
  · intro middle _
    exact quiet _ (by simp [DeliveryAction.isTick])

theorem batch_outlasts_lease : ¬ ∀ state,
    (delivering {}).ReachableBy (Timely {}) state → LeasesHeld state := by
  intro holds
  obtain ⟨state, ran, older, log⟩ : ∃ state,
      (delivering {}).run ⟨0, {}, fun _ => .idle, []⟩ slowBatchActions = some state ∧
      ∃ older, state.log = .started 0 "dlv_7_we_1" 60000000 60000000 ::
        .started 1 "dlv_7_we_1" 60000000 120000000 :: older := ⟨_, rfl, _, rfl⟩
  have start : (delivering {}).ReachableBy (Timely {}) ⟨0, {}, fun _ => .idle, []⟩ :=
    .start ⟨rfl, fun _ => rfl, rfl⟩
  have reached := Machine.reachableBy_of_run start timely_slowBatchActions ran
  have sends := (holds state reached).sends 0 "dlv_7_we_1" 60000000 60000000
  rw [log] at sends
  exact absurd (sends List.mem_cons_self) (Int.lt_irrefl _)

end Safrod

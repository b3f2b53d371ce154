import Safrod.Legacy.Runs

/-!
# Reservation accounting

The live reservations of the simulated rail are to be those of the settlements that are not
refunded. No operation cancels a reservation, so two kinds of steps break this: a Lightning
backend that refuses after the reservation was made, and a refund. `accounted_iff` says
that nothing else does.
-/

set_option autoImplicit false

namespace Safrod.Legacy

open Machine

/-- The simulated rail, whose behaviors the surroundings set, and a backend that they change
as they like. -/
def Surroundings.simulated (Lightning Event : Type) (initially : Lightning → Prop)
    (occur : Event → Lightning → Lightning) : Surroundings SimulatedFiatAdapter Lightning where
  Event := (String × SimulatedPayoutBehavior) ⊕ Event
  initially rail lightning := rail = {} ∧ initially lightning
  occur
    | .inl (key, behavior), rail, lightning => (rail.setBehavior key behavior, lightning)
    | .inr event, rail, lightning => (rail, occur event lightning)

section Accounts

variable {secp : Secp} {Lightning : Type} [LightningSettlement Lightning]
  {daemon : Daemon secp} {operation : Operation} {answer : Except NodeError Reply}
  {world between after : World SimulatedFiatAdapter Lightning}

/-! ## The rail after a call -/

/-- The reservations are the same. -/
def SimulatedFiatAdapter.Calm (before after : SimulatedFiatAdapter) : Prop :=
  after.reservations = before.reservations ∧ after.nextReservation = before.nextReservation

/-- There is one reservation more, with the next identifier. -/
def SimulatedFiatAdapter.Reserved (before after : SimulatedFiatAdapter) : Prop :=
  (∃ amount, after.reservations = (before.nextReservation, amount) :: before.reservations) ∧
    after.nextReservation = before.nextReservation + 1

theorem SimulatedFiatAdapter.Calm.trans {first second third : SimulatedFiatAdapter}
    (before : first.Calm second) (after : second.Calm third) : first.Calm third :=
  ⟨after.1.trans before.1, after.2.trans before.2⟩

theorem SimulatedFiatAdapter.Reserved.calm {first second third : SimulatedFiatAdapter}
    (before : first.Reserved second) (after : second.Calm third) : first.Reserved third := by
  obtain ⟨⟨amount, reserved⟩, next⟩ := before
  exact ⟨⟨amount, after.1.trans reserved⟩, after.2.trans next⟩

theorem initiatePayout_calm (rail : SimulatedFiatAdapter) (reservation : ReservationId)
    (beneficiary key : String) :
    rail.Calm (SimulatedFiatAdapter.initiatePayout reservation beneficiary key rail).2 := by
  unfold SimulatedFiatAdapter.initiatePayout
  split
  · split
    · exact ⟨rfl, rfl⟩
    · split <;> exact ⟨rfl, rfl⟩
  · exact ⟨rfl, rfl⟩

def NodeCall.reserves : NodeCall → Bool
  | .reserve _ => true
  | _ => false

theorem respond_calm {call : NodeCall} {answer : NodeAnswer call} (quiet : call.reserves = false)
    (called : World.respond call world = (answer, between)) :
    world.adapter.Calm between.adapter := by
  have same : between = (World.respond call world).2 := (congrArg Prod.snd called).symm
  subst same
  cases call with
  | reserve => cases quiet
  | initiatePayout => exact initiatePayout_calm _ _ _ _
  | _ => exact ⟨rfl, rfl⟩

theorem respond_reserved {amount : FiatAmount} {reservation : ReservationId}
    (called : World.respond (.reserve amount) world = (.ok reservation, between)) :
    reservation = world.adapter.nextReservation ∧ world.adapter.Reserved between.adapter ∧
      between.lightning = world.lightning := by
  have same : between = (World.respond (.reserve amount) world).2 := (congrArg Prod.snd called).symm
  have drawn : Except.ok reservation = Except.ok world.adapter.nextReservation :=
    (congrArg Prod.fst called).symm
  cases drawn
  subst same
  exact ⟨rfl, ⟨⟨amount, rfl⟩, rfl⟩, rfl⟩

theorem respond_reserve_ok {amount : FiatAmount} {error : AdapterError} :
    World.respond (.reserve amount) world ≠ (.error error, between) := by
  intro called
  cases (congrArg Prod.fst called : Except.ok world.adapter.nextReservation = Except.error error)

theorem Accepted.calm {records : List SettlementRecord} {answer : Except NodeError Unit}
    (accepted : Accepted records world answer after) : world.adapter.Calm after.adapter := by
  induction accepted with
  | nil => exact ⟨rfl, rfl⟩
  | skipped _ _ _ _ _ _ _ ih => exact ih
  | refused _ _ _ _ _ _ _ _ called => exact respond_calm rfl called
  | accepted _ _ _ _ _ _ _ _ _ called _ ih => exact (respond_calm rfl called).trans ih

/-! ## What an operation does to the accounts -/

/-- The operation neither is refused by the backend after it reserved, nor refunds. -/
def LeavesNothingOn (world : World SimulatedFiatAdapter Lightning) : Operation → Prop
  | .attachCounterpartyInvoice now id invoice => ∀ record, world.store.get id = some record →
      quoteIsExpired now record = false → record.state = .quoted →
      (LightningSettlement.acceptSettlementInvoice id record.btcAmount invoice
        world.lightning).1 = .ok ()
  | .prepareDestination now id _ btcAmount _ _ expiry => world.store.get id = none →
      expiry.any (hasReached now) = false →
      ∃ invoice, (LightningSettlement.createSettlementInvoice id btcAmount
        world.lightning).1 = .ok invoice
  | .refundSettlement id => ∀ record, world.store.get id = some record →
      record.state = .payoutFailed → (LightningSettlement.refund id world.lightning).1 ≠ .ok ()
  | _ => True

/-- The written record has the reservation of the one it is written over, and both or none
are refunded. -/
structure SameClaim (read : Option SettlementRecord) (new : SettlementRecord) : Prop where
  reservation : ∀ reservation, new.sourceReservation = some reservation ↔
    ∃ old, read = some old ∧ old.sourceReservation = some reservation
  refunded : new.state = .refunded ↔ ∃ old, read = some old ∧ old.state = .refunded

theorem SameClaim.withState {old new : SettlementRecord}
    (reservation : new.sourceReservation = old.sourceReservation)
    (refunded : new.state = .refunded ↔ old.state = .refunded) : SameClaim (some old) new where
  reservation := by
    intro wanted
    rw [reservation]
    simp only [Option.some.injEq, exists_eq_left']
  refunded := by
    rw [refunded]
    simp only [Option.some.injEq, exists_eq_left']

/-- The ways an operation changes the accounts. -/
inductive Accounting (world after : World SimulatedFiatAdapter Lightning) (clean : Prop) : Prop
  /-- The reservations and the settlements that have them are the same. -/
  | quiet (rail : world.adapter.Calm after.adapter)
      (stored : after.store = world.store ∨ ∃ record, after.store = world.store.put record ∧
        SameClaim (world.store.get record.id) record) (met : clean)
  /-- A reservation is made for nobody. -/
  | leaked (rail : world.adapter.Reserved after.adapter) (stored : after.store = world.store)
      (missed : ¬clean)
  /-- A reservation is made for a settlement that had none. -/
  | placed (rail : world.adapter.Reserved after.adapter) (record : SettlementRecord)
      (stored : after.store = world.store.put record)
      (reserved : record.sourceReservation = some world.adapter.nextReservation)
      (open_ : record.state ≠ .refunded)
      (had : ∀ old, world.store.get record.id = some old → old.sourceReservation = none)
      (met : clean)
  /-- A settlement is refunded, and its reservation stays. -/
  | refunded (rail : world.adapter.Calm after.adapter) (record : SettlementRecord)
      (reservation : ReservationId) (found : world.store.get record.id = some record)
      (failed : record.state = .payoutFailed)
      (reserved : record.sourceReservation = some reservation)
      (stored : after.store = world.store.put { record with state := .refunded })
      (missed : ¬clean)

/-- An operation that does not reserve and is not a refund writes over a record one with the
same reservation. -/
theorem Writes.sameClaim {read : Option SettlementRecord} {new : SettlementRecord}
    (writes : Writes daemon operation read new)
    (attaches : ∀ now id invoice, operation ≠ .attachCounterpartyInvoice now id invoice)
    (prepares : ∀ now id fiatAmount btcAmount counterparty beneficiary expiry,
      operation ≠ .prepareDestination now id fiatAmount btcAmount counterparty beneficiary expiry)
    (refunds : ∀ id, operation ≠ .refundSettlement id) : SameClaim read new := by
  cases writes with
  | begun | begunFromQuote =>
      refine ⟨fun reservation => iff_of_false nofun ?_, iff_of_false nofun ?_⟩
      · rintro ⟨_, ⟨⟩, -⟩
      · rintro ⟨_, ⟨⟩, -⟩
  | attached now id invoice => exact absurd rfl (attaches now id invoice)
  | prepared => exact absurd rfl (prepares _ _ _ _ _ _ _)
  | refunded id => exact absurd rfl (refunds id)
  | answered id record outcome same state =>
      refine .withState rfl (iff_of_false ?_ (by rw [state]; decide))
      cases outcome <;> nofun
  | reconciled id record outcome same state =>
      refine .withState rfl (iff_of_false ?_ (by rw [state]; decide))
      cases outcome <;> nofun
  | applied attestation record same authorized state =>
      refine .withState rfl (iff_of_false ?_ ?_)
      · cases attestation.status <;> nofun
      · rcases state with state | state <;> rw [state] <;> decide
  | timedOut id record same state | marked id record same state | released id record same state =>
      exact .withState rfl (iff_of_false nofun (by rw [state]; decide))
  | conflicted attestation record same authorized conflicts state =>
      refine .withState rfl (iff_of_false nofun ?_)
      intro refunded
      rw [refunded] at state
      cases state
  | recorded => exact .withState rfl Iff.rfl

/-- Only two operations reserve. -/
theorem Performed.calm (performed : Performed daemon world operation answer after)
    (attaches : ∀ now id invoice, operation ≠ .attachCounterpartyInvoice now id invoice)
    (prepares : ∀ now id fiatAmount btcAmount counterparty beneficiary expiry,
      operation ≠ .prepareDestination now id fiatAmount btcAmount counterparty beneficiary
        expiry) : world.adapter.Calm after.adapter := by
  cases performed with
  | rejected | begun | begunFromQuote | applied | marked | conflicted | recorded =>
      exact ⟨rfl, rfl⟩
  | attachUnreserved | attachRefused | attached => exact absurd rfl (attaches _ _ _)
  | prepareUnreserved | prepareRefused | prepared => exact absurd rfl (prepares _ _ _ _ _ _ _)
  | invoiceRefused _ _ _ _ answered => exact (respond_calm rfl answered :)
  | invoiceCreated _ _ _ _ answered => exact (respond_calm rfl answered :)
  | payoutUnreserved _ _ _ _ _ _ _ answered => exact (respond_calm rfl answered :)
  | payoutAnswered _ _ _ _ _ _ _ _ answered => exact (respond_calm rfl answered :)
  | payoutRejected _ _ _ _ _ _ _ _ answered => exact (respond_calm rfl answered :)
  | payoutTimedOut _ _ _ _ _ _ _ answered => exact (respond_calm rfl answered :)
  | reconcileFailed _ _ _ _ _ _ answered => exact (respond_calm rfl answered :)
  | stillUnknown _ _ _ _ _ answered => exact (respond_calm rfl answered :)
  | reconciled _ _ _ _ _ _ answered => exact (respond_calm rfl answered :)
  | releaseFailed _ _ _ _ _ _ answered => exact (respond_calm rfl answered :)
  | released _ _ _ _ _ _ answered => exact (respond_calm rfl answered :)
  | refundFailed _ _ _ _ _ _ answered => exact (respond_calm rfl answered :)
  | refunded _ _ _ _ _ answered => exact (respond_calm rfl answered :)
  | recovered _ _ accepted => exact accepted.calm

/-- An operation that does not reserve and is not a refund is quiet. -/
theorem Performed.quiet (performed : Performed daemon world operation answer after)
    (fresh : ∀ id, operation.draws = some id → world.store.get id = none)
    (attaches : ∀ now id invoice, operation ≠ .attachCounterpartyInvoice now id invoice)
    (prepares : ∀ now id fiatAmount btcAmount counterparty beneficiary expiry,
      operation ≠ .prepareDestination now id fiatAmount btcAmount counterparty beneficiary expiry)
    (refunds : ∀ id, operation ≠ .refundSettlement id) :
    Accounting world after (LeavesNothingOn world operation) := by
  refine .quiet (performed.calm attaches prepares) ?_ ?_
  · rcases performed.writes fresh with same | ⟨record, stored, writes⟩
    · exact .inl same
    · exact .inr ⟨record, stored, writes.sameClaim attaches prepares refunds⟩
  · cases operation with
    | attachCounterpartyInvoice => exact absurd rfl (attaches _ _ _)
    | prepareDestination => exact absurd rfl (prepares _ _ _ _ _ _ _)
    | refundSettlement => exact absurd rfl (refunds _)
    | _ => trivial

theorem attach_accounts {now : Option ℕ} {id : SettlementId} {invoice : Bolt11Invoice}
    (performed : Performed daemon world (.attachCounterpartyInvoice now id invoice) answer after)
    (kept : ∀ record ∈ world.store.records, RecordKept record) :
    Accounting world after (LeavesNothingOn world (.attachCounterpartyInvoice now id invoice)) := by
  cases performed with
  | rejected _ _ why =>
      refine .quiet ⟨rfl, rfl⟩ (.inl rfl) ?_
      intro record found current state
      cases why with
      | attachUnknown _ _ _ missing =>
          rw [found] at missing
          cases missing
      | attachExpired _ _ _ old oldFound expired =>
          rw [found] at oldFound
          cases oldFound
          rw [current] at expired
          cases expired
      | attachIllegal _ _ _ old oldFound illegal =>
          rw [found] at oldFound
          cases oldFound
          exact absurd state illegal
  | attachUnreserved _ _ _ _ _ _ _ _ _ called => exact absurd called respond_reserve_ok
  | attachRefused _ _ _ record reservation error between _ found current state called refused =>
      obtain ⟨-, reserved, lightning⟩ := respond_reserved called
      refine .leaked (reserved.calm (respond_calm rfl refused)) ?_ ?_
      · exact (World.responded_store rfl refused).trans (World.responded_store rfl called)
      · intro clean
        have refusal : (LightningSettlement.acceptSettlementInvoice id record.btcAmount invoice
          between.lightning).1 = .error error := congrArg Prod.fst refused
        rw [lightning, clean record found current state] at refusal
        cases refusal
  | attached _ _ _ record reservation between _ found current state called accepted =>
      obtain ⟨rfl, reserved, lightning⟩ := respond_reserved called
      have quoted := kept record (SettlementStore.get_some.mp found).1
      have same := (World.responded_store rfl accepted).trans (World.responded_store rfl called)
      refine .placed (reserved.calm (respond_calm rfl accepted :)) _
        (congrArg (SettlementStore.put · _) same) rfl nofun ?_ ?_
      · intro old oldFound
        have same := SettlementStore.get_id found
        rw [show _ = id from same, found] at oldFound
        cases oldFound
        exact (quoted.quoted state).1
      · intro other otherFound _ _
        rw [found] at otherFound
        cases otherFound
        rw [← lightning]
        exact congrArg Prod.fst accepted

theorem prepare_accounts {now : Option ℕ} {id : SettlementId} {fiatAmount : FiatAmount}
    {btcAmount : Millisatoshis} {counterparty beneficiary : String} {expiry : Option ℕ}
    (performed : Performed daemon world
      (.prepareDestination now id fiatAmount btcAmount counterparty beneficiary expiry) answer
      after) :
    Accounting world after (LeavesNothingOn world
      (.prepareDestination now id fiatAmount btcAmount counterparty beneficiary expiry)) := by
  cases performed with
  | rejected _ _ why =>
      refine .quiet ⟨rfl, rfl⟩ (.inl rfl) ?_
      intro missing current
      cases why with
      | prepareKnown _ _ _ _ _ _ _ record found =>
          rw [missing] at found
          cases found
      | prepareExpired _ _ _ _ _ _ _ _ expired =>
          rw [current] at expired
          cases expired
  | prepareUnreserved _ _ _ _ _ _ _ _ _ _ _ called => exact absurd called respond_reserve_ok
  | prepareRefused _ _ _ _ _ _ _ reservation error between _ missing current called refused =>
      obtain ⟨-, reserved, lightning⟩ := respond_reserved called
      refine .leaked (reserved.calm (respond_calm rfl refused)) ?_ ?_
      · exact (World.responded_store rfl refused).trans (World.responded_store rfl called)
      · intro clean
        obtain ⟨invoice, created⟩ := clean missing current
        have refusal : (LightningSettlement.createSettlementInvoice id btcAmount
          between.lightning).1 = .error error := congrArg Prod.fst refused
        rw [lightning, created] at refusal
        cases refusal
  | prepared _ _ _ _ _ _ _ reservation invoice between _ missing current called created =>
      obtain ⟨rfl, reserved, lightning⟩ := respond_reserved called
      have same := (World.responded_store rfl created).trans (World.responded_store rfl called)
      refine .placed (reserved.calm (respond_calm rfl created :)) _
        (congrArg (SettlementStore.put · _) same) rfl nofun ?_ ?_
      · intro old oldFound
        cases oldFound.symm.trans missing
      · intro _ _
        refine ⟨invoice, ?_⟩
        rw [← lightning]
        exact congrArg Prod.fst created

theorem refund_accounts {id : SettlementId}
    (performed : Performed daemon world (.refundSettlement id) answer after)
    (kept : ∀ record ∈ world.store.records, RecordKept record) :
    Accounting world after (LeavesNothingOn world (.refundSettlement id)) := by
  cases performed with
  | rejected _ _ why =>
      refine .quiet ⟨rfl, rfl⟩ (.inl rfl) ?_
      intro record found state
      cases why with
      | refundUnknown _ missing =>
          rw [found] at missing
          cases missing
      | refundIllegal _ old oldFound illegal =>
          rw [found] at oldFound
          cases oldFound
          exact absurd state illegal
  | refundFailed _ record error _ found state called =>
      refine .quiet (respond_calm rfl called) (.inl (World.responded_store rfl called)) ?_
      intro other _ _ refunded
      have refusal : (LightningSettlement.refund id world.lightning).1 = .error error :=
        congrArg Prod.fst called
      rw [refunded] at refusal
      cases refusal
  | refunded _ record between found state called =>
      have failed := kept record (SettlementStore.get_some.mp found).1
      obtain ⟨reservation, reserved⟩ := Option.isSome_iff_exists.mp
        (failed.reserved (by rw [state]; decide))
      refine .refunded (respond_calm rfl called :) record reservation ?_ state reserved ?_ ?_
      · rw [SettlementStore.get_id found]
        exact found
      · exact congrArg (SettlementStore.put · _) (World.responded_store rfl called)
      · intro clean
        exact clean record found state (congrArg Prod.fst called)

/-- What an operation does to the accounts, and whether it leaves nothing behind. -/
theorem Performed.accounts (performed : Performed daemon world operation answer after)
    (kept : ∀ record ∈ world.store.records, RecordKept record)
    (fresh : ∀ id, operation.draws = some id → world.store.get id = none) :
    Accounting world after (LeavesNothingOn world operation) := by
  cases operation with
  | attachCounterpartyInvoice => exact attach_accounts performed kept
  | prepareDestination => exact prepare_accounts performed
  | refundSettlement => exact refund_accounts performed kept
  | _ => exact performed.quiet fresh nofun nofun nofun

end Accounts

/-! ## The accounts -/

section Ledgers

variable {Lightning : Type} {world after : World SimulatedFiatAdapter Lightning}

theorem SimulatedFiatAdapter.Calm.holds {before after : SimulatedFiatAdapter}
    (calm : before.Calm after) (reservation : ReservationId) :
    after.Holds reservation ↔ before.Holds reservation := by
  rw [Holds, Holds, calm.1]

theorem SimulatedFiatAdapter.Reserved.holds {before after : SimulatedFiatAdapter}
    (reserved : before.Reserved after) (reservation : ReservationId) :
    after.Holds reservation ↔
      reservation = before.nextReservation ∨ before.Holds reservation := by
  obtain ⟨⟨amount, shape⟩, -⟩ := reserved
  rw [Holds, Holds, shape]
  simp only [List.mem_cons, exists_eq_or_imp, eq_comm]

/-- A settlement that is not refunded has the reservation. -/
def SettlementStore.Refers (store : SettlementStore) (reservation : ReservationId) : Prop :=
  ∃ record ∈ store.records, record.sourceReservation = some reservation ∧
    record.state ≠ .refunded

/-- The live reservations are those of the settlements that are not refunded. -/
def Accounted (world : World SimulatedFiatAdapter Lightning) : Prop :=
  ∀ reservation, world.adapter.Holds reservation ↔ world.store.Refers reservation

/-- Identifiers of reservations were drawn, and each is of one settlement at most. -/
structure RailKept (rail : SimulatedFiatAdapter) (store : SettlementStore) : Prop where
  held : ∀ reservation, rail.Holds reservation → reservation < rail.nextReservation
  drawn : ∀ record ∈ store.records, ∀ reservation,
    record.sourceReservation = some reservation → reservation < rail.nextReservation
  unique : ∀ first ∈ store.records, ∀ second ∈ store.records, ∀ reservation,
    first.sourceReservation = some reservation → second.sourceReservation = some reservation →
      first.id = second.id

theorem RailKept.calm {rail later : SimulatedFiatAdapter} {store : SettlementStore}
    (kept : RailKept rail store) (calm : rail.Calm later) : RailKept later store where
  held reservation holds := by
    rw [calm.2]
    exact kept.held reservation ((calm.holds reservation).mp holds)
  drawn record member reservation has := by
    rw [calm.2]
    exact kept.drawn record member reservation has
  unique := kept.unique

theorem RailKept.reserved {rail later : SimulatedFiatAdapter} {store : SettlementStore}
    (kept : RailKept rail store) (reserved : rail.Reserved later) : RailKept later store where
  held reservation holds := by
    rw [reserved.2]
    rcases (reserved.holds reservation).mp holds with rfl | old
    · exact Nat.lt_succ_self _
    · exact Nat.lt_succ_of_lt (kept.held reservation old)
  drawn record member reservation has := by
    rw [reserved.2]
    exact Nat.lt_succ_of_lt (kept.drawn record member reservation has)
  unique := kept.unique

/-- A record is written whose reservation no other settlement has. -/
theorem RailKept.put {rail : SimulatedFiatAdapter} {store : SettlementStore}
    {record : SettlementRecord} (kept : RailKept rail store)
    (own : ∀ reservation, record.sourceReservation = some reservation →
      reservation < rail.nextReservation ∧ ∀ other ∈ store.records,
        other.sourceReservation = some reservation → other.id = record.id) :
    RailKept rail (store.put record) where
  held := kept.held
  drawn other member reservation has := by
    rcases SettlementStore.mem_put.mp member with rfl | ⟨old, -⟩
    · exact (own reservation has).1
    · exact kept.drawn other old reservation has
  unique first firstMember second secondMember reservation firstHas secondHas := by
    rcases SettlementStore.mem_put.mp firstMember with rfl | ⟨firstOld, firstDiffers⟩
    · rcases SettlementStore.mem_put.mp secondMember with rfl | ⟨secondOld, secondDiffers⟩
      · rfl
      · exact absurd ((own reservation firstHas).2 second secondOld secondHas) secondDiffers
    · rcases SettlementStore.mem_put.mp secondMember with rfl | ⟨secondOld, secondDiffers⟩
      · exact absurd ((own reservation secondHas).2 first firstOld firstHas) firstDiffers
      · exact kept.unique first firstOld second secondOld reservation firstHas secondHas

/-- The settlement that has a reservation is the one whose record has it. -/
theorem RailKept.owner {rail : SimulatedFiatAdapter} {store : SettlementStore}
    (kept : RailKept rail store) {id : SettlementId} {old : SettlementRecord}
    (found : store.get id = some old) {reservation : ReservationId}
    (has : old.sourceReservation = some reservation) {other : SettlementRecord}
    (member : other ∈ store.records) (otherHas : other.sourceReservation = some reservation) :
    other.id = id := by
  obtain ⟨oldMember, same⟩ := SettlementStore.get_some.mp found
  exact (kept.unique other member old oldMember reservation otherHas has).trans same

theorem Accounting.kept {clean : Prop} (accounting : Accounting world after clean)
    (kept : RailKept world.adapter world.store) : RailKept after.adapter after.store := by
  cases accounting with
  | quiet rail stored met =>
      rcases stored with same | ⟨record, same, claim⟩
      · rw [same]
        exact kept.calm rail
      · rw [same]
        refine (kept.put ?_).calm rail
        intro reservation has
        obtain ⟨old, found, oldHas⟩ := (claim.reservation reservation).mp has
        exact ⟨kept.drawn old (SettlementStore.get_some.mp found).1 reservation oldHas,
          fun other member otherHas => kept.owner found oldHas member otherHas⟩
  | leaked rail stored missed =>
      rw [stored]
      exact kept.reserved rail
  | placed rail record stored reserved open_ had met =>
      rw [stored]
      refine (kept.reserved rail).put ?_
      intro reservation has
      cases reserved.symm.trans has
      rw [rail.2]
      refine ⟨Nat.lt_succ_self _, ?_⟩
      intro other member otherHas
      exact absurd (kept.drawn other member _ otherHas) (Nat.lt_irrefl _)
  | refunded rail record reservation found failed reserved stored missed =>
      rw [stored]
      refine (kept.put ?_).calm rail
      intro wanted has
      exact ⟨kept.drawn record (SettlementStore.get_some.mp found).1 wanted has,
        fun other member otherHas => kept.owner found has member otherHas⟩

/-- Writing a record changes what refers for its settlement only. -/
theorem refers_put {store : SettlementStore} {record : SettlementRecord}
    {reservation : ReservationId} :
    (store.put record).Refers reservation ↔
      (record.sourceReservation = some reservation ∧ record.state ≠ .refunded) ∨
      ∃ other ∈ store.records, other.id ≠ record.id ∧
        other.sourceReservation = some reservation ∧ other.state ≠ .refunded := by
  simp only [SettlementStore.Refers, SettlementStore.mem_put]
  constructor
  · rintro ⟨other, rfl | ⟨member, differs⟩, has⟩
    · exact .inl has
    · exact .inr ⟨other, member, differs, has⟩
  · rintro (has | ⟨other, member, differs, has⟩)
    · exact ⟨record, .inl rfl, has⟩
    · exact ⟨other, .inr ⟨member, differs⟩, has⟩

theorem refers_sameClaim {store : SettlementStore} {record : SettlementRecord}
    (claim : SameClaim (store.get record.id) record) (reservation : ReservationId) :
    (store.put record).Refers reservation ↔ store.Refers reservation := by
  rw [refers_put]
  constructor
  · rintro (⟨has, state⟩ | ⟨other, member, -, has⟩)
    · obtain ⟨old, found, oldHas⟩ := (claim.reservation reservation).mp has
      refine ⟨old, (SettlementStore.get_some.mp found).1, oldHas, ?_⟩
      intro refunded
      exact state (claim.refunded.mpr ⟨old, found, refunded⟩)
    · exact ⟨other, member, has⟩
  · rintro ⟨other, member, has, state⟩
    by_cases same : other.id = record.id
    · have found : store.get record.id = some other := SettlementStore.get_some.mpr ⟨member, same⟩
      refine .inl ⟨(claim.reservation reservation).mpr ⟨other, found, has⟩, ?_⟩
      intro refunded
      obtain ⟨old, oldFound, oldRefunded⟩ := claim.refunded.mp refunded
      cases found.symm.trans oldFound
      exact state oldRefunded
    · exact .inr ⟨other, member, same, has, state⟩

/-- Where the accounts were in order, they are after the operation exactly if it left
nothing behind. -/
theorem Accounting.accounted {clean : Prop} (accounting : Accounting world after clean)
    (kept : RailKept world.adapter world.store) (held : Accounted world) :
    Accounted after ↔ clean := by
  cases accounting with
  | quiet rail stored met =>
      refine iff_of_true ?_ met
      intro reservation
      rw [rail.holds, held reservation]
      rcases stored with same | ⟨record, same, claim⟩
      · rw [same]
      · rw [same, refers_sameClaim claim]
  | leaked rail stored missed =>
      refine iff_of_false ?_ missed
      intro accounted
      obtain ⟨record, member, has, -⟩ := (accounted world.adapter.nextReservation).mp
        ((rail.holds _).mpr (.inl rfl))
      rw [stored] at member
      exact absurd (kept.drawn record member _ has) (Nat.lt_irrefl _)
  | placed rail record stored reserved open_ had met =>
      refine iff_of_true ?_ met
      intro reservation
      rw [rail.holds, stored, refers_put, held reservation]
      constructor
      · rintro (rfl | ⟨other, member, has, state⟩)
        · exact .inl ⟨reserved, open_⟩
        · refine .inr ⟨other, member, ?_, has, state⟩
          intro same
          have none := had other (SettlementStore.get_some.mpr ⟨member, same⟩)
          rw [none] at has
          cases has
      · rintro (⟨has, -⟩ | ⟨other, member, -, has, state⟩)
        · cases reserved.symm.trans has
          exact .inl rfl
        · exact .inr ⟨other, member, has, state⟩
  | refunded rail record reservation found failed reserved stored missed =>
      refine iff_of_false ?_ missed
      intro accounted
      have live : world.adapter.Holds reservation := (held reservation).mpr
        ⟨record, (SettlementStore.get_some.mp found).1, reserved, by rw [failed]; decide⟩
      have refers := (accounted reservation).mp ((rail.holds reservation).mpr live)
      rw [stored, refers_put] at refers
      rcases refers with ⟨-, state⟩ | ⟨other, member, differs, has, -⟩
      · exact state rfl
      · exact differs (kept.owner found reserved member has)

end Ledgers

/-! ## Every run -/

section Run

variable {secp : Secp} {Lightning : Type} [LightningSettlement Lightning]
  {daemon : Daemon secp} {world : World SimulatedFiatAdapter Lightning}

variable {Event : Type} {initially : Lightning → Prop} {occur : Event → Lightning → Lightning}

/-- A step that leaves nothing behind. -/
def LeavesNothing (world : World SimulatedFiatAdapter Lightning) :
    NodeAction (Surroundings.simulated Lightning Event initially occur).Event → Prop
  | .perform operation => LeavesNothingOn world operation
  | .happen _ => True

theorem operating_accounts {next : World SimulatedFiatAdapter Lightning}
    {action : NodeAction (Surroundings.simulated Lightning Event initially occur).Event}
    (reached : (daemon.operating (.simulated Lightning Event initially occur)).Reachable world)
    (step : (daemon.operating (.simulated Lightning Event initially occur)).step world action =
      some next) : Accounting world next (LeavesNothing world action) := by
  cases action with
  | happen event =>
      cases step
      refine .quiet ?_ (.inl rfl) trivial
      cases event <;> exact ⟨rfl, rfl⟩
  | perform operation =>
      rcases operating_step step with ⟨_, answer, after, ⟨⟩, fresh, performed, rfl⟩ | ⟨⟨_, ⟨⟩⟩, -⟩
      cases performed.accounts (stored_kept reached) fresh with
      | quiet rail stored met => exact .quiet rail stored met
      | leaked rail stored missed => exact .leaked rail stored missed
      | placed rail record stored reserved open_ had met =>
          exact .placed rail record stored reserved open_ had met
      | refunded rail record reservation found failed reserved stored missed =>
          exact .refunded rail record reservation found failed reserved stored missed

theorem railKept
    (reached : (daemon.operating (.simulated Lightning Event initially occur)).Reachable world) :
    RailKept world.adapter world.store := by
  refine reached.invariant (fun world => RailKept world.adapter world.store) ?_ ?_
  · intro world initial
    obtain ⟨store, -, rail, -⟩ := initial
    rw [store, rail]
    exact ⟨by rintro reservation ⟨entry, ⟨⟩, -⟩, by rintro record ⟨⟩, by rintro first ⟨⟩⟩
  · intro world action next earlier kept step
    exact (operating_accounts earlier step).kept kept

/-- **The live reservations are those of the settlements that are not refunded, throughout a
run, exactly when the backend refuses no settlement whose reservation was made and no refund
succeeds.** -/
theorem accounted_iff {start last : World SimulatedFiatAdapter Lightning}
    (initial : (daemon.operating (.simulated Lightning Event initially occur)).initial start)
    {actions : List (NodeAction (Surroundings.simulated Lightning Event initially occur).Event)}
    (ran : (daemon.operating (.simulated Lightning Event initially occur)).run start actions =
      some last) :
    (∀ world ∈ (daemon.operating (.simulated Lightning Event initially occur)).visited start
      actions, Accounted world) ↔
      (daemon.operating (.simulated Lightning Event initially occur)).StepsMeet LeavesNothing
        start actions := by
  refine forall_visited_iff_stepsMeet Accounted LeavesNothing ?_ (.start initial) ?_ ran
  · intro world action next earlier held step
    exact (operating_accounts earlier step).accounted (railKept earlier) held
  · obtain ⟨store, -, rail, -⟩ := initial
    intro reservation
    rw [store, rail]
    refine iff_of_false ?_ ?_
    · rintro ⟨entry, ⟨⟩, -⟩
    · rintro ⟨record, ⟨⟩, -⟩

end Run

/-- The simulated rail beside a backend whose answers are set at any time. -/
abbrev Surroundings.demo : Surroundings SimulatedFiatAdapter ScriptedLightning :=
  .simulated ScriptedLightning ScriptedLightning (fun _ => True) fun answers _ => answers

/-- A payer on the simulated rail, with nothing stored. -/
def demoPayer (lightning : ScriptedLightning) : World SimulatedFiatAdapter ScriptedLightning where
  adapter := {}
  lightning := lightning

/-- The first settlement begins, and its invoice is attached. -/
def demoSettlement : List (NodeAction Surroundings.demo.Event) :=
  [.perform (.beginSettlement firstId ⟨.ngn, 5⟩ 7 "peer" none),
    .perform (.attachCounterpartyInvoice none firstId ⟨"lnbc"⟩)]

/-- The accounts of a settlement whose invoice the backend takes. -/
theorem accounted_attached :
    (∃ world, (payer.operating .demo).run (demoPayer .obliging) demoSettlement = some world) ∧
    ∀ world ∈ (payer.operating .demo).visited (demoPayer .obliging) demoSettlement,
      Accounted world := by
  have met : (payer.operating .demo).StepsMeet LeavesNothing (demoPayer .obliging)
      demoSettlement := by
    refine .cons trivial rfl (.cons ?_ rfl (.nil _))
    intro record _ _ _
    rfl
  exact ⟨⟨_, rfl⟩, (accounted_iff ⟨rfl, rfl, rfl, trivial⟩ rfl).mpr met⟩

/-- The backend refuses the invoice, and the reservation stays. -/
theorem reservation_leaked : ¬∀ world, (payer.operating .demo).Reachable world →
    Accounted world := by
  intro accounted
  obtain ⟨world, ran, held, empty⟩ : ∃ world, (payer.operating .demo).run
      (demoPayer { ScriptedLightning.obliging with
        acceptSettlementInvoice := fun _ _ _ => .error .amountMismatch }) demoSettlement =
        some world ∧ world.adapter.Holds 0 ∧
      world.store.records = [begunRecord firstId ⟨.ngn, 5⟩ 7 "peer" none none] :=
    ⟨_, rfl, ⟨_, List.mem_cons_self, rfl⟩, rfl⟩
  obtain ⟨record, member, has, -⟩ :=
    (accounted world (reachable_of_run ⟨rfl, rfl, rfl, trivial⟩ ran) 0).mp held
  rw [empty] at member
  cases List.mem_singleton.mp member
  cases has

end Safrod.Legacy

import Safrod.Library.Machine
import Safrod.Storage.Onchain

/-!
# Which deposits are reported as confirmed

Runs of `record_observation`, for any outputs and any addresses. An observation of a
known deposit reports that it became confirmed; the first one reports that it was
detected, whatever its count. A deposit that has all its confirmations when it is
first seen is therefore stored as confirmed and never reported as such.

`confirmed_told_iff` says when a run reports every confirmed state of an output.
-/

set_option autoImplicit false

namespace Safrod

open Table Db

/-! ## Runs of observations -/

/-- A call of `record_observation`, with the identifier it draws. -/
structure Sighting where
  now : DateTime
  id : String
  observation : Observation

/-- Calls of `record_observation` on a database that has no deposit yet. -/
def observations : Machine Db Sighting where
  initial db := db.onchainTransactions = [] ∧ ∀ event ∈ db.events, event.kind ≠ confirmedKind
  step db sighting := some (recordObservation sighting.now sighting.id sighting.observation db).2

namespace Db

/-- While the output is confirmed, an event says so. -/
def Told (txid : String) (vout : ℤ) (db : Db) : Prop :=
  ∀ row, db.findOutput txid vout = some row → row.status = .confirmed →
    ∃ event ∈ db.events, event.resourceId = row.id ∧ event.kind = confirmedKind

/-- The observation that stores the output has fewer confirmations than its address
requires. -/
def SeenEarly (txid : String) (vout : ℤ) (db : Db) (sighting : Sighting) : Prop :=
  sighting.observation.txid = txid → sighting.observation.vout = vout →
    db.findOutput txid vout = none → db.Insertable sighting.id sighting.observation →
      sighting.observation.confirmations < sighting.observation.required

end Db

/-- When an observation counts as confirmed. -/
theorem Observation.status_eq_confirmed (observation : Observation) :
    observation.status = .confirmed ↔ observation.required ≤ observation.confirmations := by
  have positive : 0 < observation.required := by
    unfold Observation.required
    omega
  rw [Observation.status, OnchainStatus.fromConfirmations_eq_confirmed positive]
  omega

/-! ## Invariants -/

namespace Db

/-- Only stored deposits were reported as confirmed. -/
structure DepositsSound (db : Db) : Prop where
  keys : db.DepositKeys
  reported : ∀ event ∈ db.events, event.kind = confirmedKind →
    ∃ row ∈ db.onchainTransactions, row.id = event.resourceId

theorem kind_eq_confirmed {observation : Observation} {old : OnchainTransactionRecord} :
    observation.kind old = confirmedKind ↔
      observation.status = .confirmed ∧ old.status ≠ .confirmed := by
  unfold Observation.kind
  split
  · rename_i becomes
    exact iff_of_true rfl becomes
  · rename_i stays
    exact iff_of_false (by decide) stays

theorem detectedKind_ne : detectedKind ≠ confirmedKind := by decide

theorem DepositsSound.observed {now : DateTime} {id : String} {observation : Observation}
    {db after : Db} {answer : Except StorageError (Option OnchainTransactionRecord)}
    (sound : db.DepositsSound) (observed : Observed now id observation db answer after) :
    after.DepositsSound := by
  have keys := sound.keys.observed observed
  cases observed with
  | refused error missing bars => exact sound
  | unchanged old found same => exact sound
  | detected missing free =>
      refine ⟨keys, ?_⟩
      intro event member reports
      rcases mem_emitTransaction.mp member with old | rfl
      · obtain ⟨row, stored, same⟩ := sound.reported event old reports
        exact ⟨row, List.mem_append_left _ stored, same⟩
      · exact absurd reports detectedKind_ne
  | updated old found differs =>
      refine ⟨keys, ?_⟩
      intro event member reports
      have kept : ∀ row ∈ db.onchainTransactions, ∃ row' ∈
          (db.withObservation now observation old.id).onchainTransactions, row'.id = row.id := by
        intro row stored
        refine ⟨_, mem_updateWhere.mpr ⟨row, stored, rfl⟩, ?_⟩
        split <;> rfl
      rcases mem_emitTransaction.mp member with before | rfl
      · obtain ⟨row, stored, same⟩ := sound.reported event before reports
        obtain ⟨row', there, kept⟩ := kept row stored
        exact ⟨row', there, kept.trans same⟩
      · exact kept old (lookup_some found).1

end Db

theorem depositsSound_of_reachable {db : Db} (reached : observations.Reachable db) :
    db.DepositsSound := by
  refine reached.invariant DepositsSound ?_ ?_
  · rintro db ⟨empty, silent⟩
    exact ⟨.empty empty, fun event member reports => absurd reports (silent event member)⟩
  · intro db sighting next _ sound step
    cases step
    exact sound.observed (recordObservation_observed _ _ _ _)

/-! ## What one observation reports -/

namespace Db

/-- **One observation reports what it should exactly if an output that it stores has
fewer confirmations than required.** -/
theorem Told.observed_iff {txid : String} {vout : ℤ} {now : DateTime} {id : String}
    {observation : Observation} {db after : Db}
    {answer : Except StorageError (Option OnchainTransactionRecord)} (sound : db.DepositsSound)
    (told : db.Told txid vout) (observed : Observed now id observation db answer after) :
    after.Told txid vout ↔ db.SeenEarly txid vout ⟨now, id, observation⟩ := by
  cases observed with
  | refused error missing bars =>
      refine iff_of_true told ?_
      rintro - - - free
      exact absurd free bars
  | unchanged old found same =>
      refine iff_of_true told ?_
      rintro rfl rfl missing
      cases found.symm.trans missing
  | updated old found differs =>
      refine iff_of_true ?_ ?_
      · intro row there confirmed
        rw [emitTransaction, findOutput, emit_onchainTransactions, ← findOutput,
          findOutput_withObservation now sound.keys found] at there
        split at there
        · cases there
          by_cases before : old.status = .confirmed
          · rename_i here
            cases here
            obtain ⟨event, member, names, reports⟩ := told old found before
            exact ⟨event, mem_emitTransaction.mpr (.inl member), names, reports⟩
          · exact ⟨_, mem_emitTransaction.mpr (.inr rfl), rfl,
              kind_eq_confirmed.mpr ⟨confirmed, before⟩⟩
        · obtain ⟨event, member, names, reports⟩ := told row there confirmed
          exact ⟨event, mem_emitTransaction.mpr (.inl member), names, reports⟩
      · rintro rfl rfl missing
        cases found.symm.trans missing
  | detected missing free =>
      have looked := findOutput_detected (observation.detectedRow now id observation.amountSat)
        missing rfl txid vout
      by_cases here : (observation.txid, observation.vout) = (txid, vout)
      · rw [if_pos here] at looked
        obtain ⟨rfl, rfl⟩ := Prod.mk.inj here
        have unreported : ∀ event ∈ db.events, event.resourceId = id →
            event.kind ≠ confirmedKind := by
          intro event member names reports
          obtain ⟨row, stored, same⟩ := sound.reported event member reports
          exact free.idFree row stored (same.trans names)
        constructor
        · intro told' _ _ _ _
          refine Int.not_le.mp fun enough => ?_
          obtain ⟨event, member, names, reports⟩ :=
            told' _ looked (observation.status_eq_confirmed.mpr enough)
          rcases mem_emitTransaction.mp member with before | rfl
          · exact unreported event before names reports
          · exact detectedKind_ne reports
        · intro early row there confirmed
          cases looked.symm.trans there
          have few := early rfl rfl missing free
          exact absurd (observation.status_eq_confirmed.mp confirmed) (Int.not_le.mpr few)
      · rw [if_neg here] at looked
        refine iff_of_true ?_ ?_
        · intro row there confirmed
          obtain ⟨event, member, names, reports⟩ := told row (looked.symm.trans there) confirmed
          exact ⟨event, mem_emitTransaction.mpr (.inl member), names, reports⟩
        · rintro rfl rfl
          exact absurd rfl here

end Db

/-! ## Every run -/

/-- **Which runs report every confirmed deposit.** From a database without deposits,
the output is reported as confirmed in every state of a run in which it is stored as
confirmed exactly if the observation that stores it has fewer confirmations than its
address requires. -/
theorem confirmed_told_iff {start last : Db} {sightings : List Sighting}
    (initial : observations.initial start) (ran : observations.run start sightings = some last)
    (txid : String) (vout : ℤ) :
    (∀ db ∈ observations.visited start sightings, db.Told txid vout) ↔
      observations.StepsMeet (SeenEarly txid vout) start sightings := by
  refine Machine.forall_visited_iff_stepsMeet (Told txid vout) (SeenEarly txid vout) ?_
    (.start initial) ?_ ran
  · intro db sighting next reached told step
    cases step
    exact told.observed_iff (depositsSound_of_reachable reached)
      (recordObservation_observed _ _ _ _)
  · intro row there
    obtain ⟨member, -⟩ := lookup_some there
    rw [initial.1] at member
    exact absurd member List.not_mem_nil

/-- An address that requires two confirmations. -/
def twoConfirmations : AddressRecord := ⟨"adr_1", "prj_1", "bcrt1qaaa", "", 2, 0⟩

/-- The deposit of an output, seen with some confirmations. -/
def sighted (confirmations : ℤ) : Sighting :=
  ⟨1, "txn_1", ⟨twoConfirmations, "aa", 0, 50_000, none, confirmations⟩⟩

/-- A deposit that is seen in the mempool first is reported when it is confirmed. -/
theorem confirmed_told_iff_early :
    (∃ db, observations.run { onchainAddresses := [twoConfirmations] } [sighted 0, sighted 2] =
      some db) ∧
    ∀ db ∈ observations.visited { onchainAddresses := [twoConfirmations] } [sighted 0, sighted 2],
      db.Told "aa" 0 := by
  refine ⟨⟨_, rfl⟩, (confirmed_told_iff ⟨rfl, fun _ member => absurd member List.not_mem_nil⟩ rfl
    "aa" 0).mpr ?_⟩
  refine .cons ?_ rfl (.cons ?_ rfl (.nil _))
  · intro _ _ _ _
    decide
  · rintro - - ⟨⟩

/-- A deposit that is first seen with its two confirmations is confirmed and not reported. -/
theorem untold_confirmation : ∃ db row,
    observations.run { onchainAddresses := [twoConfirmations] } [sighted 2] = some db ∧
    db.findOutput "aa" 0 = some row ∧ row.status = .confirmed ∧
    ¬ ∃ event ∈ db.events, event.resourceId = row.id ∧ event.kind = confirmedKind := by
  refine ⟨_, _, rfl, rfl, by decide, ?_⟩
  rintro ⟨event, member, -, reports⟩
  cases List.mem_singleton.mp member
  exact detectedKind_ne reports

end Safrod

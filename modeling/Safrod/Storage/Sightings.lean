import Mathlib.Data.List.Destutter
import Safrod.Storage.Deposits

/-!
# What is reported of one output

The watcher sees an output again and again, and records every sight of it. The row keeps the
last count of confirmations. An event is written for the first sight and for each that brings
another count than the one before it, so the counts the events carry are the history of the
counts without their repeats (`sightings_reported`).

A count is compared as it came, and made a status only after it was clamped.
-/

set_option autoImplicit false

namespace Safrod

open Table Db

/-! ## The history of an output -/

/-- The status of so many confirmations of an output of the address. -/
def AddressRecord.statusAt (address : AddressRecord) (confirmations : ℤ) : OnchainStatus :=
  .fromConfirmations (max confirmations 0).toNat (max address.requiredConfirmations 1).toNat

/-- The kinds of the events for the counts after the first. -/
def laterKinds (status : ℤ → OnchainStatus) : ℤ → List ℤ → List String
  | _, [] => []
  | last, count :: rest =>
      (if status count = .confirmed ∧ status last ≠ .confirmed then confirmedKind
        else updatedKind) :: laterKinds status count rest

/-- The kinds of the events for the counts of an output. -/
def historyKinds (status : ℤ → OnchainStatus) : List ℤ → List String
  | [] => []
  | first :: rest => detectedKind :: laterKinds status first rest

/-- Only the first event says that the output was detected. -/
theorem detectedKind_not_mem_laterKinds (status : ℤ → OnchainStatus) (last : ℤ)
    (counts : List ℤ) : detectedKind ∉ laterKinds status last counts := by
  induction counts generalizing last with
  | nil => exact List.not_mem_nil
  | cons count rest ih =>
      intro member
      rcases List.mem_cons.mp member with here | later
      · split at here
        · exact absurd here (by decide)
        · exact absurd here (by decide)
      · exact ih count later

/-- The event tells the row. -/
structure Reports (address : AddressRecord) (event : EventRecord)
    (row : OnchainTransactionRecord) : Prop where
  project : event.projectId = address.projectId
  resource : event.resourceId = row.id
  data : event.data = transactionEventData row address.address

/-- A call for an output of an address, of a positive amount that fits its column. -/
structure Sighting.IsFor (sighting : Sighting) (address : AddressRecord) (txid : String)
    (vout : ℤ) : Prop where
  address : sighting.observation.address = address
  txid : sighting.observation.txid = txid
  vout : sighting.observation.vout = vout
  positive : 0 < sighting.observation.amountSat
  fits : sighting.observation.amountSat ≤ i64Max

/-- One call after another. -/
def recordAll (sightings : List Sighting) (db : Db) : Db :=
  sightings.foldl (fun db sighting =>
    (recordObservation sighting.now sighting.id sighting.observation db).2) db

section History

variable {address : AddressRecord} {txid : String} {vout : ℤ}

theorem Sighting.IsFor.status {sighting : Sighting} (isFor : sighting.IsFor address txid vout) :
    sighting.observation.status = address.statusAt sighting.observation.confirmations := by
  rw [Observation.status, Observation.required, isFor.address, AddressRecord.statusAt]

/-- The row of the output at some time. -/
structure OutputStored (address : AddressRecord) (txid : String) (vout : ℤ) (db : Db)
    (row : OnchainTransactionRecord) : Prop where
  keys : db.DepositKeys
  found : db.findOutput txid vout = some row
  project : row.projectId = address.projectId
  status : row.status = address.statusAt row.confirmations

/-- A call for an output that is stored: nothing, where the count is the same, or an event
and the row with the new count. -/
theorem OutputStored.record {db : Db} {row : OnchainTransactionRecord}
    (stored : OutputStored address txid vout db row) {sighting : Sighting}
    (isFor : sighting.IsFor address txid vout) :
    (sighting.observation.confirmations = row.confirmations ∧
      (recordObservation sighting.now sighting.id sighting.observation db).2 = db) ∨
    (sighting.observation.confirmations ≠ row.confirmations ∧ ∃ event next,
      (recordObservation sighting.now sighting.id sighting.observation db).2.events =
        db.events ++ [event] ∧
      OutputStored address txid vout
        (recordObservation sighting.now sighting.id sighting.observation db).2 next ∧
      next.confirmations = sighting.observation.confirmations ∧ next.id = row.id ∧
      Reports address event next ∧
      event.kind = if address.statusAt sighting.observation.confirmations = .confirmed ∧
        address.statusAt row.confirmations ≠ .confirmed then confirmedKind else updatedKind) := by
  have observed := recordObservation_observed sighting.now sighting.id sighting.observation db
  have found : db.findOutput sighting.observation.txid sighting.observation.vout = some row := by
    rw [isFor.txid, isFor.vout, stored.found]
  have keys := stored.keys.observed observed
  generalize result : recordObservation sighting.now sighting.id sighting.observation db = answered
    at observed keys ⊢
  obtain ⟨answer, after⟩ := answered
  cases observed with
  | refused error missing bars =>
      rw [found] at missing
      cases missing
  | detected missing free =>
      rw [found] at missing
      cases missing
  | unchanged old there same =>
      cases found.symm.trans there
      exact .inl ⟨same.symm, rfl⟩
  | updated old there differs =>
      cases found.symm.trans there
      refine .inr ⟨fun same => differs same.symm, _,
        sighting.observation.updatedRow sighting.now row, rfl, ?_, rfl, rfl, ?_, ?_⟩
      · refine ⟨keys, ?_, stored.project, ?_⟩
        · refine (findOutput_withObservation sighting.now stored.keys found txid vout).trans ?_
          rw [if_pos]
          rw [isFor.txid, isFor.vout]
        · exact isFor.status
      · refine ⟨stored.project, rfl, ?_⟩
        exact congrArg (transactionEventData _ ·.address) isFor.address
      · refine (show _ = sighting.observation.kind row from rfl).trans ?_
        rw [Observation.kind, isFor.status, stored.status]

/-- The first call for an output stores it, and reports that it was detected. -/
theorem record_first {db : Db} (keys : db.DepositKeys)
    (known : ∃ watched ∈ db.onchainAddresses, watched.id = address.id)
    (unseen : db.findOutput txid vout = none) {sighting : Sighting}
    (isFor : sighting.IsFor address txid vout)
    (fresh : ∀ old ∈ db.onchainTransactions, old.id ≠ sighting.id) :
    ∃ event row,
      (recordObservation sighting.now sighting.id sighting.observation db).2.events =
        db.events ++ [event] ∧
      OutputStored address txid vout
        (recordObservation sighting.now sighting.id sighting.observation db).2 row ∧
      row.confirmations = sighting.observation.confirmations ∧
      Reports address event row ∧ event.kind = detectedKind := by
  have observed := recordObservation_observed sighting.now sighting.id sighting.observation db
  have later := keys.observed observed
  have missing : db.findOutput sighting.observation.txid sighting.observation.vout = none := by
    rw [isFor.txid, isFor.vout, unseen]
  have free : db.Insertable sighting.id sighting.observation := by
    refine ⟨isFor.fits, isFor.positive, fresh, ?_⟩
    rw [isFor.address]
    exact known
  generalize result : recordObservation sighting.now sighting.id sighting.observation db = answered
    at observed later ⊢
  obtain ⟨answer, after⟩ := answered
  cases observed with
  | refused error _ bars => exact absurd free bars
  | unchanged old there same =>
      rw [missing] at there
      cases there
  | updated old there differs =>
      rw [missing] at there
      cases there
  | detected _ _ =>
      have project : sighting.observation.address.projectId = address.projectId :=
        congrArg _ isFor.address
      refine ⟨_, sighting.observation.detectedRow sighting.now sighting.id
        sighting.observation.amountSat, rfl, ?_, rfl, ⟨project, rfl, ?_⟩, rfl⟩
      · refine ⟨later, ?_, project, isFor.status⟩
        refine (findOutput_detected _ missing rfl txid vout).trans ?_
        rw [if_pos]
        rw [isFor.txid, isFor.vout]
      · exact congrArg (transactionEventData _ ·.address) isFor.address

/-- The calls after the first report the counts that differ from the one before them. -/
theorem recordAll_stored {sightings : List Sighting}
    (calls : ∀ sighting ∈ sightings, sighting.IsFor address txid vout) {db : Db}
    {row : OnchainTransactionRecord} (stored : OutputStored address txid vout db row) :
    ∃ emitted rows last,
      (recordAll sightings db).events = db.events ++ emitted ∧
      List.Forall₂ (Reports address) emitted rows ∧
      (∀ told ∈ rows, told.id = row.id) ∧ last.id = row.id ∧
      row.confirmations :: rows.map (·.confirmations) =
        (sightings.map (·.observation.confirmations)).destutter' (· ≠ ·) row.confirmations ∧
      emitted.map (·.kind) =
        laterKinds address.statusAt row.confirmations (rows.map (·.confirmations)) ∧
      OutputStored address txid vout (recordAll sightings db) last ∧
      last.confirmations =
        (sightings.map (·.observation.confirmations)).getLastD row.confirmations := by
  induction sightings generalizing db row with
  | nil =>
      exact ⟨[], [], row, (List.append_nil _).symm, .nil, fun _ member => (by cases member), rfl,
        rfl, rfl, stored, rfl⟩
  | cons sighting rest ih =>
      have others : ∀ other ∈ rest, other.IsFor address txid vout :=
        fun other member => calls other (List.mem_cons_of_mem _ member)
      rcases stored.record (calls sighting List.mem_cons_self) with
        ⟨same, unchanged⟩ | ⟨differs, event, next, written, nextStored, count, id, reports, kind⟩
      · obtain ⟨emitted, rows, last, events, told, ids, lastId, counts, kinds, lastStored,
            lastCount⟩ := ih others stored
        have run : recordAll (sighting :: rest) db = recordAll rest db :=
          congrArg (recordAll rest) unchanged
        rw [run]
        refine ⟨emitted, rows, last, events, told, ids, lastId, ?_, kinds, lastStored, ?_⟩
        · rw [List.map_cons, List.destutter'_cons_neg _ (not_not.mpr same.symm)]
          exact counts
        · rw [List.map_cons, List.getLastD_cons, same]
          exact lastCount
      · obtain ⟨emitted, rows, last, events, told, ids, lastId, counts, kinds, lastStored,
            lastCount⟩ := ih others nextStored
        refine ⟨event :: emitted, next :: rows, last, ?_, .cons reports told, ?_, lastId.trans id,
          ?_, ?_, lastStored, ?_⟩
        · refine events.trans ?_
          rw [written, List.append_assoc]
          rfl
        · intro one member
          rcases List.mem_cons.mp member with rfl | later
          · exact id
          · exact (ids one later).trans id
        · rw [List.map_cons, List.map_cons, List.destutter'_cons_pos _ (Ne.symm differs), ← count]
          exact congrArg _ counts
        · rw [List.map_cons, List.map_cons, laterKinds, kind, kinds, count]
        · rw [List.map_cons, List.getLastD_cons, ← count]
          exact lastCount

/-- **The events of an output carry the counts it was seen with, in order and without their
repeats. The first says that it was detected, and only the first; a later one that it is
confirmed, exactly where its status becomes that. The row has the status of the last count.** -/
theorem sightings_reported {db : Db} (keys : db.DepositKeys)
    (known : ∃ watched ∈ db.onchainAddresses, watched.id = address.id)
    (unseen : db.findOutput txid vout = none) (first : Sighting) (later : List Sighting)
    (calls : ∀ sighting ∈ first :: later, sighting.IsFor address txid vout)
    (fresh : ∀ old ∈ db.onchainTransactions, old.id ≠ first.id) :
    ∃ emitted rows row,
      (recordAll (first :: later) db).events = db.events ++ emitted ∧
      List.Forall₂ (Reports address) emitted rows ∧
      (∀ told ∈ rows, told.id = row.id) ∧
      rows.map (·.confirmations) =
        ((first :: later).map (·.observation.confirmations)).destutter (· ≠ ·) ∧
      emitted.map (·.kind) = historyKinds address.statusAt
        (((first :: later).map (·.observation.confirmations)).destutter (· ≠ ·)) ∧
      detectedKind ∉ (emitted.map (·.kind)).tail ∧
      (recordAll (first :: later) db).findOutput txid vout = some row ∧
      row.status = address.statusAt (((first :: later).map (·.observation.confirmations)).getLast
        (List.cons_ne_nil _ _)) := by
  obtain ⟨event, row, written, stored, count, reports, kind⟩ :=
    record_first keys known unseen (calls first List.mem_cons_self) fresh
  obtain ⟨emitted, rows, last, events, told, ids, lastId, counts, kinds, lastStored, lastCount⟩ :=
    recordAll_stored (fun other member => calls other (List.mem_cons_of_mem _ member)) stored
  have history : ((first :: later).map (·.observation.confirmations)).destutter (· ≠ ·) =
      row.confirmations :: rows.map (·.confirmations) := by
    rw [List.map_cons, List.destutter_cons', counts, count]
  refine ⟨event :: emitted, row :: rows, last, ?_, .cons reports told, ?_, history.symm, ?_, ?_,
    lastStored.found, ?_⟩
  · refine events.trans ?_
    rw [written, List.append_assoc]
    rfl
  · intro one member
    rcases List.mem_cons.mp member with rfl | other
    · exact lastId.symm
    · exact (ids one other).trans lastId.symm
  · rw [history, List.map_cons, kind, kinds, historyKinds]
  · rw [List.map_cons, List.tail_cons, kinds]
    exact detectedKind_not_mem_laterKinds _ _ _
  · rw [lastStored.status, lastCount, count]
    exact congrArg address.statusAt (List.getLast_eq_getLastD _).symm

end History

/-- An output that needs two confirmations is seen without, twice with two, and again without:
the repeat is not reported. -/
theorem sightings_reported_reorganized : ∃ emitted row,
    (recordAll [sighted 0, sighted 2, sighted 2, sighted 0]
      { onchainAddresses := [twoConfirmations] }).events = emitted ∧
    emitted.map (·.kind) = [detectedKind, confirmedKind, updatedKind] ∧
    (recordAll [sighted 0, sighted 2, sighted 2, sighted 0]
      { onchainAddresses := [twoConfirmations] }).findOutput "aa" 0 = some row ∧
    row.status = .unconfirmed := by
  have calls : ∀ sighting ∈ [sighted 0, sighted 2, sighted 2, sighted 0],
      sighting.IsFor twoConfirmations "aa" 0 := by
    intro sighting member
    simp only [List.mem_cons, List.not_mem_nil, or_false] at member
    rcases member with rfl | rfl | rfl | rfl
    all_goals exact ⟨rfl, rfl, rfl, by decide, by decide⟩
  obtain ⟨emitted, rows, row, events, -, -, -, kinds, -, found, status⟩ :=
    @sightings_reported _ _ _ { onchainAddresses := [twoConfirmations] } (.empty rfl)
      ⟨twoConfirmations, List.mem_singleton_self _, rfl⟩ rfl (sighted 0)
      [sighted 2, sighted 2, sighted 0] calls (fun _ member => absurd member List.not_mem_nil)
  exact ⟨emitted, row, events, kinds, found, status⟩

end Safrod

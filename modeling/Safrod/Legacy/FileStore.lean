import Safrod.Library.Program
import Safrod.Legacy.Store

/-!
# The store in a file

`FileSettlementStore` writes all records to a temporary file and renames it over the old
one. What it asks of the file system is a program; which of its calls fail is for the
surroundings to say. `put` takes the record out of the memory again when `save` fails, as if
nothing had been written then. `put_atomic_iff` says when that is so: a failure after the
rename comes too late.
-/

set_option autoImplicit false

namespace Safrod.Legacy

open Program

/-! ## Files -/

inductive IoError where
  | notFound
  | other (text : String)
  deriving DecidableEq

inductive FileAction where
  | createDirAll (path : String)
  | openLock (path : String)
  | tryLock (path : String)
  | openTruncated (path : String)
  | writeAll (path : String) (bytes : List UInt8)
  | syncAll (path : String)
  | rename (source target : String)
  | openDirectory (path : String)
  | syncDirectory (path : String)
  deriving DecidableEq

inductive FileCall where
  | act (action : FileAction)
  | read (path : String)
  deriving DecidableEq

abbrev FileAnswer : FileCall → Type
  | .act _ => Except IoError Unit
  | .read _ => Except IoError (List UInt8)

abbrev Disk : Type := String → Option (List UInt8)

/-- What an action does to the files. -/
def FileAction.effect : FileAction → Disk → Disk
  | openTruncated path, disk => Function.update disk path (some [])
  | writeAll path bytes, disk => Function.update disk path (some bytes)
  | rename source target, disk =>
      Function.update (Function.update disk target (disk source)) source none
  | _, disk => disk

/-- What is left of an action that fails. -/
def FileAction.leaves (written : ℕ) : FileAction → Disk → Disk
  | writeAll path bytes, disk => Function.update disk path (some (bytes.take written))
  | _, disk => disk

/-- Which calls fail, and how much a write that fails has written. -/
structure Faults where
  fails : FileCall → Option IoError
  written : ℕ

namespace Faults

/-- No call fails. -/
def never : Faults := ⟨fun _ => none, 0⟩

variable (faults : Faults)

def respond : (call : FileCall) → Disk → FileAnswer call × Disk
  | .act action, disk =>
      match faults.fails (.act action) with
      | some error => (.error error, action.leaves faults.written disk)
      | none => (.ok (), action.effect disk)
  | .read path, disk =>
      match faults.fails (.read path), disk path with
      | some error, _ => (.error error, disk)
      | none, none => (.error .notFound, disk)
      | none, some bytes => (.ok bytes, disk)

end Faults

abbrev FileProgram : Type → Type := ExceptT IoError (Program FileCall FileAnswer)

def invoke (action : FileAction) : FileProgram Unit :=
  ExceptT.mk (Program.call (FileCall.act action))

def orIo {Value : Type} (result : Except IoError Value) : FileProgram Value :=
  ExceptT.mk (pure result)

/-- A program from its first call to its end. -/
def runFiles {Value : Type} (faults : Faults) (program : FileProgram Value) (disk : Disk) :
    Except IoError Value × Disk :=
  Program.exec faults.respond program.run disk

section Runs

variable {faults : Faults} {First Second : Type}

@[simp] theorem runFiles_pure (value : First) (disk : Disk) :
    runFiles faults (pure value) disk = (.ok value, disk) := rfl

theorem respond_act (action : FileAction) (disk : Disk) :
    faults.respond (.act action) disk =
      match faults.fails (.act action) with
      | some error => (.error error, action.leaves faults.written disk)
      | none => (.ok (), action.effect disk) := rfl

theorem runFiles_orIo_bind (result : Except IoError First) (next : First → FileProgram Second)
    (disk : Disk) : runFiles faults (orIo result >>= next) disk =
      match result with
      | .error error => (.error error, disk)
      | .ok value => runFiles faults (next value) disk := by
  cases result <;> rfl

/-- What follows an action, when it did not fail. -/
theorem runFiles_invoke_bind (action : FileAction) (next : Unit → FileProgram First)
    (disk : Disk) : runFiles faults (invoke action >>= next) disk =
      match faults.fails (.act action) with
      | some error => (.error error, action.leaves faults.written disk)
      | none => runFiles faults (next ()) (action.effect disk) := by
  refine (Program.exec_bind faults.respond (invoke action).run
    (ExceptT.bindCont next) disk).trans ?_
  have first : Program.exec faults.respond (invoke action).run disk =
      faults.respond (.act action) disk := rfl
  rw [first, respond_act]
  cases faults.fails (.act action) <;> rfl

theorem runFiles_invoke (action : FileAction) (disk : Disk) :
    runFiles faults (invoke action) disk =
      match faults.fails (.act action) with
      | some error => (.error error, action.leaves faults.written disk)
      | none => (.ok (), action.effect disk) := respond_act action disk

end Runs

/-! ## Saving and opening -/

/-- `serde_json` of the map of records. -/
structure RecordsJson where
  toVec : SettlementStore → Except IoError (List UInt8)
  fromSlice : List UInt8 → Except IoError SettlementStore

/-- The two maps have the same records. -/
def SettlementStore.Same (first second : SettlementStore) : Prop :=
  ∀ id, first.get id = second.get id

/-- What was written is read back. -/
def RecordsJson.Lawful (json : RecordsJson) : Prop :=
  ∀ store bytes, json.toVec store = .ok bytes →
    ∃ loaded, json.fromSlice bytes = .ok loaded ∧ loaded.Same store

/-- The file, the temporary file and the lock beside it, and the directory they are in. A file
whose extension is `tmp` would be its own temporary file, and is left out. -/
structure StorePath where
  path : String
  temporary : String
  lock : String
  parent : Option String
  distinct : path ≠ temporary

/-- `HashMap::remove`. -/
def SettlementStore.remove (store : SettlementStore) (id : SettlementId) : SettlementStore where
  records := store.records.filter fun record => record.id ≠ id
  unique := store.unique.filter _

structure FileSettlementStore where
  records : SettlementStore
  disk : Disk

inductive PutEnd where
  | returned
  /-- `failed to persist settlement state`. -/
  | panicked (error : IoError)

namespace FileSettlementStore

variable (json : RecordsJson) (path : StorePath)

/-- What is in the file. A file that is not there has no records. -/
def parse : Except IoError (List UInt8) → Except IoError SettlementStore
  | .ok bytes => json.fromSlice bytes
  | .error .notFound => .ok .empty
  | .error error => .error error

def «open» : FileProgram SettlementStore := do
  match path.parent with
  | none => pure ()
  | some parent => invoke (.createDirAll parent)
  invoke (.openLock path.lock)
  invoke (.tryLock path.lock)
  let bytes ← ExceptT.lift (Program.call (FileCall.read path.path))
  orIo (parse json bytes)

/-- The last part of `save`: the new name of the file is made durable. -/
def syncParent : FileProgram Unit :=
  match path.parent with
  | none => pure ()
  | some parent => do
      invoke (.openDirectory parent)
      invoke (.syncDirectory parent)

def save (records : SettlementStore) : FileProgram Unit := do
  let bytes ← orIo (json.toVec records)
  invoke (.openTruncated path.temporary)
  invoke (.writeAll path.temporary bytes)
  invoke (.syncAll path.temporary)
  invoke (.rename path.temporary path.path)
  syncParent path

/-- The map before a record was inserted, as `put` restores it. -/
def rollback (inserted : SettlementStore) (id : SettlementId) :
    Option SettlementRecord → SettlementStore
  | some old => inserted.put old
  | none => inserted.remove id

def put (faults : Faults) (record : SettlementRecord) (store : FileSettlementStore) :
    PutEnd × FileSettlementStore :=
  let old := store.records.get record.id
  let inserted := store.records.put record
  match runFiles faults (save json path inserted) store.disk with
  | (.ok _, disk) => (.returned, ⟨inserted, disk⟩)
  | (.error error, disk) => (.panicked error, ⟨rollback inserted record.id old, disk⟩)

/-! ## What `save` leaves -/

/-- `save` comes as far as the rename. -/
structure Renames (faults : Faults) (records : SettlementStore) (bytes : List UInt8) : Prop where
  encoded : json.toVec records = .ok bytes
  opened : faults.fails (.act (.openTruncated path.temporary)) = none
  wrote : faults.fails (.act (.writeAll path.temporary bytes)) = none
  synced : faults.fails (.act (.syncAll path.temporary)) = none
  renamed : faults.fails (.act (.rename path.temporary path.path)) = none

/-- The directory cannot be opened or synced. -/
def ParentFails (faults : Faults) : Prop :=
  ∃ parent, path.parent = some parent ∧
    (faults.fails (.act (.openDirectory parent)) ≠ none ∨
      faults.fails (.act (.syncDirectory parent)) ≠ none)

/-- `save` fails after the rename. -/
def FailsLate (faults : Faults) (records : SettlementStore) : Prop :=
  (∃ bytes, Renames json path faults records bytes) ∧ ParentFails path faults

section Save

variable {json path} {faults : Faults} {records : SettlementStore} {disk : Disk}

theorem syncParent_disk : (runFiles faults (syncParent path) disk).2 = disk := by
  unfold syncParent
  cases path.parent with
  | none => rfl
  | some parent =>
      dsimp only
      rw [runFiles_invoke_bind]
      cases faults.fails (.act (.openDirectory parent)) with
      | some error => rfl
      | none =>
          dsimp only
          rw [runFiles_invoke]
          cases faults.fails (.act (.syncDirectory parent)) <;> rfl

theorem syncParent_ok :
    (runFiles faults (syncParent path) disk).1 = .ok () ↔ ¬ ParentFails path faults := by
  unfold syncParent ParentFails
  cases path.parent with
  | none => exact iff_of_true rfl (by rintro ⟨parent, ⟨⟩, -⟩)
  | some parent =>
      dsimp only
      rw [runFiles_invoke_bind]
      cases opened : faults.fails (.act (.openDirectory parent)) with
      | some error =>
          refine iff_of_false (by rintro ⟨⟩) (fun clear => clear ⟨parent, rfl, .inl ?_⟩)
          rw [opened]
          rintro ⟨⟩
      | none =>
          dsimp only
          rw [runFiles_invoke]
          cases synced : faults.fails (.act (.syncDirectory parent)) with
          | some error =>
              refine iff_of_false (by rintro ⟨⟩) (fun clear => clear ⟨parent, rfl, .inr ?_⟩)
              rw [synced]
              rintro ⟨⟩
          | none =>
              refine iff_of_true rfl ?_
              rintro ⟨other, ⟨⟩, failed | failed⟩
              · exact failed opened
              · exact failed synced

/-- After the rename only the directory is left to sync, and the file has the records. -/
theorem save_of_renames (disk : Disk) {bytes : List UInt8}
    (renames : Renames json path faults records bytes) :
    ∃ after, runFiles faults (save json path records) disk =
        runFiles faults (syncParent path) after ∧ after path.path = some bytes := by
  unfold save
  rw [runFiles_orIo_bind, renames.encoded]
  dsimp only
  rw [runFiles_invoke_bind, renames.opened]
  dsimp only
  rw [runFiles_invoke_bind, renames.wrote]
  dsimp only
  rw [runFiles_invoke_bind, renames.synced]
  dsimp only
  rw [runFiles_invoke_bind, renames.renamed]
  refine ⟨_, rfl, ?_⟩
  simp only [FileAction.effect]
  rw [Function.update_of_ne path.distinct, Function.update_self, Function.update_self]

/-- Before the rename the file is as it was. -/
theorem save_of_not_renames (disk : Disk)
    (stops : ¬ ∃ bytes, Renames json path faults records bytes) :
    ∃ error after, runFiles faults (save json path records) disk = (.error error, after) ∧
      after path.path = disk path.path := by
  unfold save
  rw [runFiles_orIo_bind]
  cases encoded : json.toVec records with
  | error error => exact ⟨error, disk, rfl, rfl⟩
  | ok bytes =>
      dsimp only
      rw [runFiles_invoke_bind]
      cases opened : faults.fails (.act (.openTruncated path.temporary)) with
      | some error => exact ⟨error, disk, rfl, rfl⟩
      | none =>
          have truncated : (FileAction.openTruncated path.temporary).effect disk path.path =
              disk path.path := Function.update_of_ne path.distinct _ _
          dsimp only
          rw [runFiles_invoke_bind]
          cases wrote : faults.fails (.act (.writeAll path.temporary bytes)) with
          | some error =>
              refine ⟨error, _, rfl, ?_⟩
              exact (Function.update_of_ne path.distinct _ _).trans truncated
          | none =>
              have written : (FileAction.writeAll path.temporary bytes).effect
                  ((FileAction.openTruncated path.temporary).effect disk) path.path =
                    disk path.path := (Function.update_of_ne path.distinct _ _).trans truncated
              dsimp only
              rw [runFiles_invoke_bind]
              cases synced : faults.fails (.act (.syncAll path.temporary)) with
              | some error => exact ⟨error, _, rfl, written⟩
              | none =>
                  dsimp only
                  rw [runFiles_invoke_bind]
                  cases renamed : faults.fails (.act (.rename path.temporary path.path)) with
                  | some error => exact ⟨error, _, rfl, written⟩
                  | none => exact absurd ⟨bytes, encoded, opened, wrote, synced, renamed⟩ stops

end Save

/-! ## What a fresh process loads -/

/-- The records of a file. -/
def content : Option (List UInt8) → Except IoError SettlementStore
  | none => .ok .empty
  | some bytes => json.fromSlice bytes

/-- A fresh process that opens the file has the records. -/
def Loads (disk : Disk) (loaded : SettlementStore) : Prop :=
  (runFiles .never («open» json path) disk).1 = .ok loaded

variable {json path} {disk : Disk}

theorem loads_iff {loaded : SettlementStore} : Loads json path disk loaded ↔
    content json (disk path.path) = .ok loaded := by
  have answered : (Faults.never.respond (.read path.path) disk).1 =
      (disk path.path).elim (.error .notFound) .ok := by
    cases present : disk path.path <;> simp only [Faults.respond, Faults.never, present] <;> rfl
  have opened : (runFiles .never («open» json path) disk).1 =
      parse json (Faults.never.respond (.read path.path) disk).1 := by
    unfold «open» runFiles
    cases path.parent <;> rfl
  rw [Loads, opened, answered]
  cases disk path.path <;> rfl

end FileSettlementStore

/-! ## Maps of records -/

namespace SettlementStore

theorem get_remove (store : SettlementStore) (removed id : SettlementId) :
    (store.remove removed).get id = if id = removed then none else store.get id := by
  refine Option.ext ?_
  intro record
  by_cases here : id = removed
  · rw [if_pos here, get_some]
    refine iff_of_false ?_ (by rintro ⟨⟩)
    rintro ⟨member, same⟩
    exact of_decide_eq_true (List.mem_filter.mp member).2 (same.trans here)
  · rw [if_neg here, get_some, get_some]
    refine and_congr_left ?_
    intro same
    refine List.mem_filter.trans (and_iff_left (decide_eq_true ?_))
    rw [same]
    exact here

theorem Same.refl (store : SettlementStore) : store.Same store := fun _ => rfl

/-- Inserting what is stored changes nothing. -/
theorem put_same {store : SettlementStore} {record : SettlementRecord}
    (stored : store.get record.id = some record) : (store.put record).Same store := by
  intro id
  rw [get_put]
  split
  · rename_i here
    rw [here, stored]
  · rfl

end SettlementStore

namespace FileSettlementStore

theorem rollback_same (records : SettlementStore) (record : SettlementRecord) :
    (rollback (records.put record) record.id (records.get record.id)).Same records := by
  intro id
  cases stored : records.get record.id with
  | some old =>
      have key := SettlementStore.get_id stored
      rw [rollback, SettlementStore.get_put, SettlementStore.get_put, key]
      split
      · rename_i here
        rw [here, stored]
      · rfl
  | none =>
      rw [rollback, SettlementStore.get_remove, SettlementStore.get_put]
      split
      · rename_i here
        rw [here, stored]
      · rfl

/-! ## Memory and file after a write -/

variable (json : RecordsJson) (path : StorePath)

/-- The file has the records in memory. -/
def InStep (store : FileSettlementStore) : Prop :=
  ∃ loaded, Loads json path store.disk loaded ∧ loaded.Same store.records

/-- Memory and file both have the new record, or both have what was there before. -/
def Atomic (before : FileSettlementStore) (record : SettlementRecord)
    (after : FileSettlementStore) : Prop :=
  ∃ loaded, Loads json path after.disk loaded ∧
    ((loaded.Same (before.records.put record) ∧
        after.records.Same (before.records.put record)) ∨
      (loaded.Same before.records ∧ after.records.Same before.records))

section Put

variable {json path} {faults : Faults} {record : SettlementRecord} {store : FileSettlementStore}

theorem put_of_ok {after : Disk}
    (ran : runFiles faults (save json path (store.records.put record)) store.disk =
      (.ok (), after)) :
    put json path faults record store = (.returned, ⟨store.records.put record, after⟩) := by
  simp only [put, ran]

theorem put_of_error {error : IoError} {after : Disk}
    (ran : runFiles faults (save json path (store.records.put record)) store.disk =
      (.error error, after)) :
    put json path faults record store = (.panicked error,
      ⟨rollback (store.records.put record) record.id (store.records.get record.id), after⟩) := by
  simp only [put, ran]

/-- A `put` that does not come to the rename leaves everything as it was. -/
theorem put_of_not_renames (inStep : InStep json path store)
    (stops : ¬ ∃ bytes, Renames json path faults (store.records.put record) bytes) :
    Atomic json path store record (put json path faults record store).2 := by
  obtain ⟨error, after, ran, kept⟩ := save_of_not_renames store.disk stops
  obtain ⟨loaded, loads, same⟩ := inStep
  rw [put_of_error ran]
  refine ⟨loaded, ?_, .inr ⟨same, rollback_same store.records record⟩⟩
  rw [loads_iff] at loads ⊢
  exact (congrArg (content json) kept).trans loads

/-- A `put` all of whose calls succeed leaves the new record in memory and file. -/
theorem put_of_synced (lawful : json.Lawful) {bytes : List UInt8}
    (renames : Renames json path faults (store.records.put record) bytes)
    (clear : ¬ ParentFails path faults) :
    Atomic json path store record (put json path faults record store).2 := by
  obtain ⟨renamed, ran, file⟩ := save_of_renames store.disk renames
  have done : runFiles faults (save json path (store.records.put record)) store.disk =
      (.ok (), renamed) :=
    ran.trans (Prod.ext (syncParent_ok.mpr clear) syncParent_disk)
  obtain ⟨loaded, read, same⟩ := lawful _ _ renames.encoded
  rw [put_of_ok done]
  refine ⟨loaded, ?_, .inl ⟨same, .refl _⟩⟩
  rw [loads_iff]
  exact (congrArg (content json) file).trans read

/-- A `put` that fails after the rename leaves the new record in the file and the old one in
memory. -/
theorem put_of_failsLate (lawful : json.Lawful)
    (late : FailsLate json path faults (store.records.put record)) :
    Atomic json path store record (put json path faults record store).2 ↔
      store.records.get record.id = some record := by
  obtain ⟨⟨bytes, renames⟩, parentFails⟩ := late
  obtain ⟨renamed, ran, file⟩ := save_of_renames store.disk renames
  obtain ⟨loaded, read, same⟩ := lawful _ _ renames.encoded
  have rolled := rollback_same store.records record
  have failed : ∃ error, runFiles faults (save json path (store.records.put record)) store.disk =
      (.error error, renamed) := by
    rw [ran]
    cases ended : (runFiles faults (syncParent path) renamed).1 with
    | ok value => exact absurd parentFails (syncParent_ok.mp ended)
    | error error => exact ⟨error, Prod.ext ended syncParent_disk⟩
  obtain ⟨error, failed⟩ := failed
  have loads : ∀ other, Loads json path renamed other ↔ loaded = other := by
    intro other
    rw [loads_iff, file]
    exact ⟨fun same => Except.ok.inj (read.symm.trans same),
      fun same => read.trans (congrArg Except.ok same)⟩
  have stored : (store.records.put record).Same store.records →
      store.records.get record.id = some record := by
    intro unchanged
    rw [← unchanged record.id]
    exact SettlementStore.get_put_self store.records record
  rw [put_of_error failed]
  constructor
  · rintro ⟨other, reads, both | both⟩
    · exact stored fun id => (both.2 id).symm.trans (rolled id)
    · cases (loads other).mp reads
      exact stored fun id => (same id).symm.trans (both.1 id)
  · intro already
    have unchanged := SettlementStore.put_same already
    exact ⟨loaded, (loads loaded).mpr rfl, .inr ⟨fun id => (same id).trans (unchanged id), rolled⟩⟩

/-- **A write leaves memory and file in step unless the directory fails after the rename, and
then, too, where the record was stored already.** -/
theorem put_atomic_iff (lawful : json.Lawful) (inStep : InStep json path store) :
    Atomic json path store record (put json path faults record store).2 ↔
      ¬ FailsLate json path faults (store.records.put record) ∨
        store.records.get record.id = some record := by
  by_cases late : FailsLate json path faults (store.records.put record)
  · rw [put_of_failsLate lawful late]
    exact ⟨.inr, fun either => either.resolve_left fun clear => clear late⟩
  · refine iff_of_true ?_ (.inl late)
    by_cases renames : ∃ bytes, Renames json path faults (store.records.put record) bytes
    · obtain ⟨bytes, renames⟩ := renames
      exact put_of_synced lawful renames fun fails => late ⟨⟨bytes, renames⟩, fails⟩
    · exact put_of_not_renames inStep renames

end Put

/-! ## A file named without its directory -/

/-- The parent of such a path is the empty path, which cannot be opened. -/
def bareName : StorePath :=
  ⟨"settlements.json", "settlements.tmp", "settlements.lock", some "", by decide⟩

def bareNameFaults : Faults where
  fails call := if call = .act (.openDirectory "") then some .notFound else none
  written := 0

def firstRecord : SettlementRecord where
  id := ⟨List.replicate 16 0, List.length_replicate⟩
  state := .quoted
  fiatAmount := ⟨.ngn, 5⟩
  btcAmount := 7
  counterparty := "peer"
  beneficiary := ""
  payoutIdempotencyKey := "00000000000000000000000000000000"
  quoteExpiresAtUnix := none
  quote := none
  sourceReservation := none
  counterpartyInvoice := none
  attestations := []

/-- Texts of no record and of the first one. -/
def firstJson : RecordsJson where
  toVec store :=
    match store.records with
    | [] => .ok [123, 125]
    | [record] =>
        if record = firstRecord then .ok [123, 34, 48, 34, 58, 53, 125]
        else .error (.other "unsupported")
    | _ => .error (.other "unsupported")
  fromSlice bytes :=
    if bytes = [123, 125] then .ok .empty
    else if bytes = [123, 34, 48, 34, 58, 53, 125] then .ok (SettlementStore.empty.put firstRecord)
    else .error (.other "unsupported")

theorem firstJson_lawful : firstJson.Lawful := by
  rintro ⟨records, unique⟩ bytes encoded
  cases records with
  | nil =>
      cases encoded
      exact ⟨.empty, rfl, fun _ => rfl⟩
  | cons record rest =>
      cases rest with
      | nil =>
          simp only [firstJson] at encoded
          split at encoded
          · rename_i first
            cases first
            cases encoded
            exact ⟨SettlementStore.empty.put firstRecord, rfl, fun _ => rfl⟩
          · cases encoded
      | cons other more => cases encoded

/-- The first write to an empty store that has no file. -/
def firstStore : FileSettlementStore := ⟨.empty, fun _ => none⟩

theorem firstStore_inStep : InStep firstJson bareName firstStore :=
  ⟨.empty, loads_iff.mpr rfl, .refl _⟩

theorem bareName_failsLate :
    FailsLate firstJson bareName bareNameFaults (firstStore.records.put firstRecord) :=
  ⟨⟨[123, 34, 48, 34, 58, 53, 125], rfl, rfl, rfl, rfl, rfl⟩, "", rfl, .inl (by rintro ⟨⟩)⟩

/-- The first write panics, the record is in the file and not in memory. -/
theorem put_bareName : InStep firstJson bareName firstStore ∧
    ¬ Atomic firstJson bareName firstStore firstRecord
      (put firstJson bareName bareNameFaults firstRecord firstStore).2 := by
  refine ⟨firstStore_inStep, ?_⟩
  rw [put_of_failsLate firstJson_lawful bareName_failsLate]
  rintro ⟨⟩

/-- A disk that is full after three bytes. -/
def fullDisk : Faults where
  fails
    | .act (.writeAll _ _) => some (.other "no space left on device")
    | _ => none
  written := 3

/-- A write that fails halfway panics, and leaves memory and file as they were. -/
theorem put_atomic_iff_fullDisk :
    (put firstJson bareName fullDisk firstRecord firstStore).1 =
        .panicked (.other "no space left on device") ∧
      Atomic firstJson bareName firstStore firstRecord
        (put firstJson bareName fullDisk firstRecord firstStore).2 := by
  refine ⟨rfl, (put_atomic_iff firstJson_lawful firstStore_inStep).mpr (.inl ?_)⟩
  rintro ⟨⟨bytes, renames⟩, -⟩
  cases renames.wrote

end FileSettlementStore

end Safrod.Legacy

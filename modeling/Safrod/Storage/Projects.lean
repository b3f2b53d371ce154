import Safrod.Core.ApiKey
import Safrod.Library.Machine
import Safrod.Library.Page
import Safrod.Library.Table
import Safrod.Storage.Model

/-!
# Projects and their keys

The tables of projects and API keys, and the statements on them. A key is looked up by the
digest of its secret, which a unique index keeps apart from every other; no statement
deletes a row, and a revoked key keeps its digest.

`keyDesk` runs the statements in any order, and logs which secrets were handed out and which
keys were revoked. `Recorded` says that the tables hold what the log tells.
-/

set_option autoImplicit false

namespace Safrod

open Table

/-! ## Rows -/

structure Project where
  id : String
  name : String
  network : String
  createdAt : DateTime

structure ApiKeyRecord where
  id : String
  projectId : String
  label : String
  prefix_ : String
  scopes : List String
  revokedAt : Option DateTime
  createdAt : DateTime

/-- A row of `api_keys`. No query returns the digest with the rest of the row. -/
structure ApiKeyRow extends ApiKeyRecord where
  keyHash : List UInt8

structure AuthContext where
  projectId : String
  keyId : String
  scopes : List String

structure Directory where
  projects : List Project := []
  apiKeys : List ApiKeyRow := []

def ApiKeyRow.context (row : ApiKeyRow) : AuthContext := ⟨row.projectId, row.id, row.scopes⟩

namespace Directory

/-! ## Statements -/

def createProject (now : DateTime) (id name network : String) :
    Directory → Except StorageError Project × Directory :=
  transaction fun tx =>
    if ∃ row ∈ tx.projects, row.id = id then .error .conflict
    else
      let project : Project := ⟨id, name, network, now⟩
      .ok (.commit project { tx with projects := tx.projects ++ [project] })

def getProject (id : String) (directory : Directory) : Except StorageError Project :=
  fetchOne (lookup (fun row : Project => row.id) id directory.projects)

section Keys

variable {sha256 : Sha256}

def newApiKey (now : DateTime) (id projectId label : String) (scopes : List String)
    (key : GeneratedKey sha256) : ApiKeyRow where
  id := id
  projectId := projectId
  label := label
  prefix_ := key.prefix_
  scopes := scopes
  revokedAt := none
  createdAt := now
  keyHash := key.hash

/-- The identifier and the digest are unique, and the project has to be there. -/
def createApiKey (now : DateTime) (id projectId label : String) (scopes : List String)
    (key : GeneratedKey sha256) : Directory → Except StorageError ApiKeyRecord × Directory :=
  transaction fun tx =>
    if ∃ row ∈ tx.apiKeys, row.id = id ∨ row.keyHash = key.hash then .error .conflict
    else if ∃ project ∈ tx.projects, project.id = projectId then
      let row := newApiKey now id projectId label scopes key
      .ok (.commit row.toApiKeyRecord { tx with apiKeys := tx.apiKeys ++ [row] })
    else .error (.database "insert on api_keys violates a foreign key")

end Keys

/-- `order by created_at desc`. -/
def listApiKeys (projectId : String) (directory : Directory) : List ApiKeyRecord :=
  ((directory.apiKeys.filter fun row : ApiKeyRow => row.projectId = projectId).insertionSort
    fun first second => second.createdAt ≤ first.createdAt).map (·.toApiKeyRecord)

/-- `coalesce(revoked_at, now())`. -/
def revokedRow (now : DateTime) (row : ApiKeyRow) : ApiKeyRow :=
  { row with revokedAt := some (row.revokedAt.getD now) }

/-- `where id = $1 and project_id = $2`; no row is an error. -/
def revokeApiKey (now : DateTime) (projectId keyId : String) :
    Directory → Except StorageError Unit × Directory :=
  transaction fun tx =>
    let chosen := fun row : ApiKeyRow => row.id = keyId ∧ row.projectId = projectId
    if ∃ row ∈ tx.apiKeys, chosen row then
      .ok (.commit () { tx with apiKeys := updateWhere chosen (revokedRow now) tx.apiKeys })
    else .error .notFound

/-- `where key_hash = $1 and revoked_at is null`. -/
def authenticate (keyHash : List UInt8) (directory : Directory) : Option AuthContext :=
  (directory.apiKeys.find? fun row => row.revokedAt = none ∧ row.keyHash = keyHash).map
    ApiKeyRow.context

end Directory

/-! ## The desk where keys are handed out -/

inductive KeyEvent where
  | issued (secret : String) (context : AuthContext)
  | revoked (projectId keyId : String)

/-- The tables, and what happened to keys, the newest entry first. -/
structure KeyDesk where
  directory : Directory := {}
  log : List KeyEvent := []

section Desk

variable {sha256 : Sha256}

inductive KeyStatement (sha256 : Sha256) where
  | createProject (now : DateTime) (id name network : String)
  | createApiKey (now : DateTime) (id projectId label : String) (scopes : List String)
      (key : GeneratedKey sha256)
  | revokeApiKey (now : DateTime) (projectId keyId : String)

namespace KeyDesk

/-- A key is handed out, or revoked, where its statement succeeds. -/
def execute (desk : KeyDesk) : KeyStatement sha256 → KeyDesk
  | .createProject now id name network =>
      { desk with directory := (Directory.createProject now id name network desk.directory).2 }
  | .createApiKey now id projectId label scopes key =>
      match Directory.createApiKey now id projectId label scopes key desk.directory with
      | (.ok record, directory) =>
          ⟨directory, .issued key.secret ⟨record.projectId, record.id, record.scopes⟩ :: desk.log⟩
      | (.error _, directory) => { desk with directory := directory }
  | .revokeApiKey now projectId keyId =>
      match Directory.revokeApiKey now projectId keyId desk.directory with
      | (.ok _, directory) => ⟨directory, .revoked projectId keyId :: desk.log⟩
      | (.error _, directory) => { desk with directory := directory }

end KeyDesk

/-- Any statements, on tables that start empty. -/
def keyDesk (sha256 : Sha256) : Machine KeyDesk (KeyStatement sha256) where
  initial desk := desk = {}
  step desk statement := some (desk.execute statement)

namespace KeyDesk

/-! ## What a statement does -/

/-- The changes a statement can make. -/
inductive Executed (desk : KeyDesk) : KeyStatement sha256 → KeyDesk → Prop where
  | created (now : DateTime) (id name network : String) :
      Executed desk (.createProject now id name network) { desk with
        directory := { desk.directory with
          projects := desk.directory.projects ++ [⟨id, name, network, now⟩] } }
  | issued (now : DateTime) (id projectId label : String) (scopes : List String)
      (key : GeneratedKey sha256)
      (fresh : ∀ row ∈ desk.directory.apiKeys, row.id ≠ id ∧ row.keyHash ≠ key.hash) :
      Executed desk (.createApiKey now id projectId label scopes key)
        ⟨{ desk.directory with
            apiKeys := desk.directory.apiKeys ++
              [Directory.newApiKey now id projectId label scopes key] },
          .issued key.secret ⟨projectId, id, scopes⟩ :: desk.log⟩
  | revoked (now : DateTime) (projectId keyId : String)
      (there : ∃ row ∈ desk.directory.apiKeys, row.id = keyId ∧ row.projectId = projectId) :
      Executed desk (.revokeApiKey now projectId keyId)
        ⟨{ desk.directory with
            apiKeys := updateWhere (fun row => row.id = keyId ∧ row.projectId = projectId)
              (Directory.revokedRow now) desk.directory.apiKeys },
          .revoked projectId keyId :: desk.log⟩
  | unchanged (statement : KeyStatement sha256) : Executed desk statement desk

theorem execute_executed (desk : KeyDesk) (statement : KeyStatement sha256) :
    Executed desk statement (desk.execute statement) := by
  cases statement with
  | createProject now id name network =>
      by_cases taken : ∃ row ∈ desk.directory.projects, row.id = id
      · simp only [execute, Directory.createProject, transaction, if_pos taken]
        exact .unchanged _
      · simp only [execute, Directory.createProject, transaction, if_neg taken]
        exact .created now id name network
  | createApiKey now id projectId label scopes key =>
      by_cases taken : ∃ row ∈ desk.directory.apiKeys, row.id = id ∨ row.keyHash = key.hash
      · simp only [execute, Directory.createApiKey, transaction, if_pos taken]
        exact .unchanged _
      · by_cases there : ∃ project ∈ desk.directory.projects, project.id = projectId
        · simp only [execute, Directory.createApiKey, transaction, if_neg taken, if_pos there]
          refine .issued now id projectId label scopes key ?_
          intro row member
          refine ⟨fun same => taken ⟨row, member, .inl same⟩, ?_⟩
          exact fun same => taken ⟨row, member, .inr same⟩
        · simp only [execute, Directory.createApiKey, transaction, if_neg taken, if_neg there]
          exact .unchanged _
  | revokeApiKey now projectId keyId =>
      by_cases there : ∃ row ∈ desk.directory.apiKeys, row.id = keyId ∧ row.projectId = projectId
      · simp only [execute, Directory.revokeApiKey, transaction, if_pos there]
        exact .revoked now projectId keyId there
      · simp only [execute, Directory.revokeApiKey, transaction, if_neg there]
        exact .unchanged _

/-- A project that was created is there. -/
theorem mem_projects_of_created {desk : KeyDesk} {now : DateTime} {id name network : String}
    {project : Project}
    (created : (Directory.createProject now id name network desk.directory).1 = .ok project) :
    project = ⟨id, name, network, now⟩ ∧
      project ∈ (desk.execute
        (.createProject now id name network : KeyStatement sha256)).directory.projects := by
  by_cases taken : ∃ row ∈ desk.directory.projects, row.id = id
  · simp only [Directory.createProject, transaction, if_pos taken] at created
    cases created
  · simp only [execute, Directory.createProject, transaction, if_neg taken] at created ⊢
    cases created
    exact ⟨rfl, List.mem_append_right _ (List.mem_singleton_self _)⟩

/-- No project is lost. -/
theorem projects_subset (desk : KeyDesk) (statement : KeyStatement sha256) :
    desk.directory.projects ⊆ (desk.execute statement).directory.projects := by
  have executed := desk.execute_executed statement
  generalize desk.execute statement = next at executed
  cases executed with
  | created now id name network => exact List.subset_append_left _ _
  | issued now id projectId label scopes key fresh => exact List.Subset.refl _
  | revoked now projectId keyId there => exact List.Subset.refl _
  | unchanged statement => exact List.Subset.refl _

/-! ## The tables hold what the log tells -/

/-- Every key was handed out, every secret that was handed out is a key, and the revoked
keys are the ones that somebody revoked. -/
structure Recorded (sha256 : Sha256) (desk : KeyDesk) : Prop where
  ids : KeyUnique (fun row : ApiKeyRow => row.id) desk.directory.apiKeys
  hashes : KeyUnique (fun row : ApiKeyRow => row.keyHash) desk.directory.apiKeys
  handedOut : ∀ row ∈ desk.directory.apiKeys, ∃ secret,
    .issued secret row.context ∈ desk.log ∧ row.keyHash = hashSecret sha256 secret
  stored : ∀ secret context, .issued secret context ∈ desk.log →
    ∃ row ∈ desk.directory.apiKeys, row.keyHash = hashSecret sha256 secret ∧
      row.context = context
  revokedAt : ∀ row ∈ desk.directory.apiKeys,
    (row.revokedAt.isSome ↔ .revoked row.projectId row.id ∈ desk.log)
  known : ∀ projectId keyId, .revoked projectId keyId ∈ desk.log →
    ∃ row ∈ desk.directory.apiKeys, row.id = keyId ∧ row.projectId = projectId
  shaped : ∀ secret context, .issued secret context ∈ desk.log → looksLikeKey secret = .ok ()

theorem Recorded.issued {desk : KeyDesk} (recorded : desk.Recorded sha256) {now : DateTime}
    {id projectId label : String} {scopes : List String} {key : GeneratedKey sha256}
    (fresh : ∀ row ∈ desk.directory.apiKeys, row.id ≠ id ∧ row.keyHash ≠ key.hash) :
    Recorded sha256 ⟨{ desk.directory with
        apiKeys := desk.directory.apiKeys ++
          [Directory.newApiKey now id projectId label scopes key] },
      .issued key.secret ⟨projectId, id, scopes⟩ :: desk.log⟩ where
  ids := recorded.ids.append_singleton fun row member => (fresh row member).1
  hashes := recorded.hashes.append_singleton fun row member => (fresh row member).2
  handedOut := by
    intro row member
    rcases List.mem_append.mp member with old | new
    · obtain ⟨secret, entry, same⟩ := recorded.handedOut row old
      exact ⟨secret, List.mem_cons_of_mem _ entry, same⟩
    · rw [List.mem_singleton.mp new]
      exact ⟨key.secret, List.mem_cons_self, key.hashed⟩
  stored := by
    intro secret context entry
    rcases List.mem_cons.mp entry with new | old
    · cases new
      exact ⟨_, List.mem_append_right _ List.mem_cons_self, key.hashed, rfl⟩
    · obtain ⟨row, member, same⟩ := recorded.stored secret context old
      exact ⟨row, List.mem_append_left _ member, same⟩
  revokedAt := by
    intro row member
    rcases List.mem_append.mp member with old | new
    · rw [recorded.revokedAt row old]
      simp
    · rw [List.mem_singleton.mp new]
      refine ⟨fun revoked => ?_, fun entry => ?_⟩
      · cases revoked
      · rcases List.mem_cons.mp entry with first | old
        · cases first
        · obtain ⟨other, there, same, -⟩ := recorded.known projectId id old
          exact absurd same (fresh other there).1
  known := by
    intro project keyId entry
    rcases List.mem_cons.mp entry with first | old
    · cases first
    · obtain ⟨row, member, same⟩ := recorded.known project keyId old
      exact ⟨row, List.mem_append_left _ member, same⟩
  shaped := by
    intro secret context entry
    rcases List.mem_cons.mp entry with new | old
    · cases new
      exact key.shaped
    · exact recorded.shaped secret context old

theorem Recorded.revoked {desk : KeyDesk} (recorded : desk.Recorded sha256) (now : DateTime)
    {projectId keyId : String}
    (there : ∃ row ∈ desk.directory.apiKeys, row.id = keyId ∧ row.projectId = projectId) :
    Recorded sha256 ⟨{ desk.directory with
        apiKeys := updateWhere (fun row => row.id = keyId ∧ row.projectId = projectId)
          (Directory.revokedRow now) desk.directory.apiKeys },
      .revoked projectId keyId :: desk.log⟩ := by
  have same : ∀ row : ApiKeyRow,
      (if row.id = keyId ∧ row.projectId = projectId then Directory.revokedRow now row
        else row).context = row.context ∧
      (if row.id = keyId ∧ row.projectId = projectId then Directory.revokedRow now row
        else row).keyHash = row.keyHash := by
    intro row
    split <;> exact ⟨rfl, rfl⟩
  refine ⟨recorded.ids.update fun row => rfl, recorded.hashes.update fun row => rfl,
    ?_, ?_, ?_, ?_, ?_⟩
  · intro row member
    obtain ⟨old, stored, rfl⟩ := mem_updateWhere.mp member
    obtain ⟨secret, entry, hashed⟩ := recorded.handedOut old stored
    rw [(same old).1, (same old).2]
    exact ⟨secret, List.mem_cons_of_mem _ entry, hashed⟩
  · intro secret context entry
    rcases List.mem_cons.mp entry with first | old
    · cases first
    · obtain ⟨row, member, hashed, shown⟩ := recorded.stored secret context old
      refine ⟨_, mem_updateWhere.mpr ⟨row, member, rfl⟩, ?_, ?_⟩
      · rw [(same row).2, hashed]
      · rw [(same row).1, shown]
  · intro row member
    obtain ⟨old, stored, rfl⟩ := mem_updateWhere.mp member
    by_cases chosen : old.id = keyId ∧ old.projectId = projectId
    · rw [if_pos chosen]
      obtain ⟨rfl, rfl⟩ := chosen
      exact ⟨fun _ => List.mem_cons_self, fun _ => rfl⟩
    · rw [if_neg chosen, recorded.revokedAt old stored]
      constructor
      · exact List.mem_cons_of_mem _
      · intro entry
        rcases List.mem_cons.mp entry with first | later
        · cases first
          exact absurd ⟨rfl, rfl⟩ chosen
        · exact later
  · intro project key entry
    have kept : ∀ row ∈ desk.directory.apiKeys, row.id = key ∧ row.projectId = project →
        ∃ row ∈ updateWhere (fun row => row.id = keyId ∧ row.projectId = projectId)
          (Directory.revokedRow now) desk.directory.apiKeys,
            row.id = key ∧ row.projectId = project := by
      intro row member holds
      refine ⟨_, mem_updateWhere.mpr ⟨row, member, rfl⟩, ?_⟩
      split
      · exact holds
      · exact holds
    rcases List.mem_cons.mp entry with first | old
    · cases first
      obtain ⟨row, member, holds⟩ := there
      exact kept row member holds
    · obtain ⟨row, member, holds⟩ := recorded.known project key old
      exact kept row member holds
  · intro secret context entry
    rcases List.mem_cons.mp entry with first | old
    · cases first
    · exact recorded.shaped secret context old

theorem reachable_execute {desk : KeyDesk} (reached : (keyDesk sha256).Reachable desk)
    (statement : KeyStatement sha256) : (keyDesk sha256).Reachable (desk.execute statement) :=
  reached.next rfl

theorem recorded_of_reachable {desk : KeyDesk} (reached : (keyDesk sha256).Reachable desk) :
    desk.Recorded sha256 := by
  refine reached.invariant (Recorded sha256) ?_ ?_
  · rintro _ rfl
    refine ⟨KeyUnique.nil, KeyUnique.nil, ?_, ?_, ?_, ?_, ?_⟩
    · intro row member
      cases member
    · intro secret context entry
      cases entry
    · intro row member
      cases member
    · intro projectId keyId entry
      cases entry
    · intro secret context entry
      cases entry
  · intro desk statement next _ recorded step
    cases step
    have executed := desk.execute_executed statement
    generalize desk.execute statement = next at executed
    cases executed with
    | created now id name network =>
        exact ⟨recorded.ids, recorded.hashes, recorded.handedOut, recorded.stored,
          recorded.revokedAt, recorded.known, recorded.shaped⟩
    | issued now id projectId label scopes key fresh => exact recorded.issued fresh
    | revoked now projectId keyId there => exact recorded.revoked now there
    | unchanged statement => exact recorded

end KeyDesk

end Desk

end Safrod

import Safrod.Api.Invoices
import Safrod.Storage.Projects

/-!
# Who may do what

A request presents the secret of a key in its `Authorization` header. It is admitted where
the digest of the secret is that of a key which is not revoked and has the scope.

`authorized_iff` says it by what happened at the desk: the secret was handed out with the
scope, and the key was not revoked since. The digest of a revoked key stays in its unique
column, so whatever has this digest is refused from then on (`revoked_forever`).
-/

set_option autoImplicit false

namespace Safrod

open Table

/-! ## Requests -/

/-- The value of a header, by its lower-case name. -/
abbrev HeaderMap := String → Option String

def ApiError.unauthorized : ApiError := ⟨401, "unauthorized", "missing or invalid API key"⟩

def ApiError.forbidden (message : String) : ApiError := ⟨403, "forbidden", message⟩

structure ApiConfig where
  network : Network
  /-- `none` disables the admin API entirely. -/
  adminToken : Option String
  webhookAllowPrivate : Bool
  defaultConfirmations : ℤ
  enableDevEndpoints : Bool

/-- `headers.get(name).and_then(|v| v.to_str().ok())`. -/
def headerText (headers : HeaderMap) (name : String) : Option String :=
  (headers name).filter fun value => value.toList.all isVisibleAscii

def bearerToken (headers : HeaderMap) : Option String :=
  match headerText headers "authorization" with
  | none => none
  | some value =>
      if "Bearer ".toList.isPrefixOf value.toList then
        some (trim (String.ofList (value.toList.drop "Bearer ".toList.length)))
      else none

section Auth

variable (sha256 : Sha256)

def authenticate (directory : Directory) (headers : HeaderMap) : Except ApiError AuthContext :=
  match bearerToken headers with
  | none => .error .unauthorized
  | some token =>
      match looksLikeKey token with
      | .error _ => .error .unauthorized
      | .ok _ =>
          match directory.authenticate (hashSecret sha256 token) with
          | none => .error .unauthorized
          | some context => .ok context

def authorize (directory : Directory) (headers : HeaderMap) (scope : Scope) :
    Except ApiError AuthContext :=
  match authenticate sha256 directory headers with
  | .error error => .error error
  | .ok context =>
      if context.scopes.any (fun s => s = scope.asStr) then .ok context
      else .error (.forbidden ("this API key lacks the " ++ scope.asStr ++ " scope"))

/-- Operator-only endpoints use a separate static token, which is compared by its digest. -/
def requireAdmin (config : ApiConfig) (headers : HeaderMap) : Except ApiError Unit :=
  match config.adminToken with
  | none => .error (.forbidden "the admin API is disabled on this node")
  | some expected =>
      match headerText headers "x-admin-token" with
      | none => .error (.forbidden "admin token required")
      | some provided =>
          if hashSecret sha256 expected = hashSecret sha256 provided then .ok ()
          else .error (.forbidden "admin token required")

end Auth

variable {sha256 : Sha256} {desk later : KeyDesk} {headers : HeaderMap} {context : AuthContext}

/-! ## Live keys -/

theorem authenticate_eq_ok {directory : Directory} :
    authenticate sha256 directory headers = .ok context ↔
      ∃ token, bearerToken headers = some token ∧ looksLikeKey token = .ok () ∧
        directory.authenticate (hashSecret sha256 token) = some context := by
  unfold authenticate
  cases presented : bearerToken headers with
  | none => simp
  | some token =>
      simp only [Option.some.injEq, exists_eq_left']
      cases shape : looksLikeKey token with
      | error error => simp
      | ok _ =>
          cases found : directory.authenticate (hashSecret sha256 token) with
          | none => simp
          | some other => simp

theorem authorize_eq_ok {directory : Directory} {scope : Scope} :
    authorize sha256 directory headers scope = .ok context ↔
      authenticate sha256 directory headers = .ok context ∧ scope.asStr ∈ context.scopes := by
  unfold authorize
  cases authenticated : authenticate sha256 directory headers with
  | error error => simp
  | ok other =>
      by_cases carries : scope.asStr ∈ other.scopes
      · simp only [List.any_eq_true, decide_eq_true_eq, exists_eq_right, if_pos carries]
        constructor
        · intro same
          cases same
          exact ⟨rfl, carries⟩
        · rintro ⟨same, -⟩
          exact same
      · simp only [List.any_eq_true, decide_eq_true_eq, exists_eq_right, if_neg carries]
        constructor
        · intro failed
          cases failed
        · rintro ⟨same, carried⟩
          cases same
          exact absurd carried carries

namespace KeyDesk

/-- The lookup by a digest finds the key that has it and is not revoked. -/
theorem Recorded.authenticate_eq_some (recorded : desk.Recorded sha256) {keyHash : List UInt8} :
    desk.directory.authenticate keyHash = some context ↔
      ∃ row ∈ desk.directory.apiKeys, row.keyHash = keyHash ∧ row.context = context ∧
        .revoked row.projectId row.id ∉ desk.log := by
  have found : ∀ {row : ApiKeyRow}, (desk.directory.apiKeys.find? fun row =>
      row.revokedAt = none ∧ row.keyHash = keyHash) = some row ↔
        row ∈ desk.directory.apiKeys ∧ row.keyHash = keyHash ∧ row.revokedAt = none := by
    intro row
    rw [recorded.hashes.find?_and keyHash fun row => row.revokedAt = none,
      Option.filter_eq_some_iff, recorded.hashes.lookup_eq_some, decide_eq_true_eq, and_assoc]
  have live : ∀ row ∈ desk.directory.apiKeys,
      (row.revokedAt = none ↔ .revoked row.projectId row.id ∉ desk.log) := by
    intro row member
    rw [← recorded.revokedAt row member, Option.not_isSome_iff_eq_none]
  rw [Directory.authenticate, Option.map_eq_some_iff]
  constructor
  · rintro ⟨row, here, shown⟩
    obtain ⟨member, hashed, open_⟩ := found.mp here
    exact ⟨row, member, hashed, shown, (live row member).mp open_⟩
  · rintro ⟨row, member, hashed, shown, open_⟩
    exact ⟨row, found.mpr ⟨member, hashed, (live row member).mpr open_⟩, shown⟩

/-- The log only grows. -/
theorem log_suffix (reached : (keyDesk sha256).Reachable desk)
    (leads : (keyDesk sha256).Leads desk later) : desk.log <:+ later.log := by
  refine Machine.Leads.induct (fun first second : KeyDesk => first.log <:+ second.log)
    (fun desk => List.suffix_refl desk.log) (fun _ _ _ before after => before.trans after) ?_
    reached leads
  intro first statement second _ step
  cases step
  have executed := first.execute_executed statement
  generalize first.execute statement = second at executed
  cases executed with
  | created now id name network => exact List.suffix_refl _
  | issued now id projectId label scopes key fresh => exact List.suffix_cons _ _
  | revoked now projectId keyId there => exact List.suffix_cons _ _
  | unchanged statement => exact List.suffix_refl _

end KeyDesk

theorem authorize_of_issued (reached : (keyDesk sha256).Reachable desk) {token : String}
    (presented : bearerToken headers = some token) (issued : .issued token context ∈ desk.log)
    (live : .revoked context.projectId context.keyId ∉ desk.log) {scope : Scope}
    (carries : scope.asStr ∈ context.scopes) :
    authorize sha256 desk.directory headers scope = .ok context := by
  have recorded := KeyDesk.recorded_of_reachable reached
  obtain ⟨row, member, hashed, rfl⟩ := recorded.stored token context issued
  rw [authorize_eq_ok, authenticate_eq_ok]
  refine ⟨⟨token, presented, recorded.shaped token _ issued, ?_⟩, carries⟩
  exact recorded.authenticate_eq_some.mpr ⟨row, member, hashed, rfl, live⟩

/-- **What a key admits.** At any desk that statements in any order lead to, a request is
admitted for a project exactly where it presents a secret that was handed out for the project
with the scope, and the key was not revoked since. The digest tells the presented text from
the other secrets. -/
theorem authorized_iff (reached : (keyDesk sha256).Reachable desk) (scope : Scope)
    (apart : ∀ token, bearerToken headers = some token →
      ∀ secret given, .issued secret given ∈ desk.log →
        hashSecret sha256 secret = hashSecret sha256 token → secret = token) :
    authorize sha256 desk.directory headers scope = .ok context ↔
      ∃ token, bearerToken headers = some token ∧ .issued token context ∈ desk.log ∧
        scope.asStr ∈ context.scopes ∧
        .revoked context.projectId context.keyId ∉ desk.log := by
  constructor
  · intro admitted
    have recorded := KeyDesk.recorded_of_reachable reached
    obtain ⟨authenticated, carries⟩ := authorize_eq_ok.mp admitted
    obtain ⟨token, presented, -, found⟩ := authenticate_eq_ok.mp authenticated
    obtain ⟨row, member, hashed, rfl, live⟩ := recorded.authenticate_eq_some.mp found
    obtain ⟨secret, entry, same⟩ := recorded.handedOut row member
    have own : secret = token := apart token presented secret _ entry (same.symm.trans hashed)
    rw [own] at entry
    exact ⟨token, presented, entry, carries, live⟩
  · rintro ⟨token, presented, entry, carries, live⟩
    exact authorize_of_issued reached presented entry live carries

/-- A digest that keeps every byte. -/
def keepBytes : Sha256 := id

def bearer (secret : String) : HeaderMap :=
  fun name => if name = "authorization" then some ("Bearer " ++ secret) else none

/-- Every secret that is handed out can be presented. -/
theorem bearerToken_secretOf (label : KeyLabel) (bytes : KeyBytes) :
    bearerToken (bearer (secretOf label bytes)) = some (secretOf label bytes) := by
  have start : "Bearer ".toList.all isVisibleAscii = true := rfl
  have visible : ("Bearer " ++ secretOf label bytes).toList.all isVisibleAscii = true := by
    rw [List.all_eq_true, String.toList_append]
    intro c member
    rcases List.mem_append.mp member with first | rest
    · exact List.all_eq_true.mp start c first
    · rcases plain_of_mem_secretOf rest with plain | rfl
      · have code := Text.code_of_isAlphanum plain
        simp [isVisibleAscii]
        omega
      · decide
  have solid : ∀ c ∈ (secretOf label bytes).toList, isWhiteSpace c = false := by
    intro c member
    rcases plain_of_mem_secretOf member with plain | rfl
    · exact isWhiteSpace_of_isAlphanum plain
    · decide
  have trimmed : trim (secretOf label bytes) = secretOf label bytes := by
    have kept := toList_trim_of_solid solid
    rw [String.ofList_toList] at kept
    exact String.toList_injective kept
  have given : headerText (bearer (secretOf label bytes)) "authorization" =
      some ("Bearer " ++ secretOf label bytes) := by
    simp only [headerText, bearer, if_true, Option.filter, visible]
  simp only [bearerToken, given, String.toList_append]
  rw [if_pos (List.isPrefixOf_iff_prefix.mpr ⟨_, rfl⟩), List.drop_left, String.ofList_toList,
    trimmed]

def drawnBytes (last : UInt8) : KeyBytes := ⟨List.replicate 31 0 ++ [last], by simp⟩

def drawnSecret (last : UInt8) : String := secretOf .test (drawnBytes last)

def issueStatements : List (KeyStatement keepBytes) := [
  .createProject 0 "prj_1" "shop" "regtest",
  .createApiKey 1 "key_1" "prj_1" "default" ["invoices:read"]
    (generate keepBytes .test (drawnBytes 7))]

theorem authorized_iff_issued : ∃ desk, (keyDesk keepBytes).run {} issueStatements = some desk ∧
    authorize keepBytes desk.directory (bearer (drawnSecret 7)) .invoicesRead =
      .ok ⟨"prj_1", "key_1", ["invoices:read"]⟩ := by
  have presents : bearerToken (bearer (drawnSecret 7)) = some (drawnSecret 7) :=
    bearerToken_secretOf .test (drawnBytes 7)
  have handedOut : ((keyDesk keepBytes).run {} issueStatements).map (·.log) =
      some [.issued (drawnSecret 7) ⟨"prj_1", "key_1", ["invoices:read"]⟩] := by rfl
  obtain ⟨desk, ran, log⟩ := Option.map_eq_some_iff.mp handedOut
  refine ⟨desk, ran, (authorized_iff (Machine.reachable_of_run rfl ran) .invoicesRead ?_).mpr ?_⟩
  · intro token presented secret given entry _
    rw [presents] at presented
    cases presented
    rw [log] at entry
    cases List.mem_singleton.mp entry
    rfl
  · refine ⟨_, presents, ?_, List.mem_singleton_self _, ?_⟩
    · rw [log]
      exact List.mem_singleton_self _
    · rw [log]
      intro entry
      cases List.mem_singleton.mp entry

/-- **A revoked key stays revoked.** Once a key was handed out and revoked, no later request
is admitted with its secret, nor with any text that has the digest of the secret. -/
theorem revoked_forever (reached : (keyDesk sha256).Reachable desk)
    (leads : (keyDesk sha256).Leads desk later) {secret : String}
    (issued : .issued secret context ∈ desk.log)
    (revoked : .revoked context.projectId context.keyId ∈ desk.log) {token : String}
    (presented : bearerToken headers = some token)
    (same : hashSecret sha256 token = hashSecret sha256 secret) (scope : Scope) :
    authorize sha256 later.directory headers scope = .error .unauthorized := by
  have recorded := KeyDesk.recorded_of_reachable (reached.leads leads)
  have grown := (KeyDesk.log_suffix reached leads).subset
  obtain ⟨row, member, hashed, rfl⟩ := recorded.stored secret context (grown issued)
  have refused : later.directory.authenticate (hashSecret sha256 token) = none := by
    cases found : later.directory.authenticate (hashSecret sha256 token) with
    | none => rfl
    | some other =>
        obtain ⟨live, there, digest, -, open_⟩ := recorded.authenticate_eq_some.mp found
        have own := recorded.hashes.eq_of_key there member
          (digest.trans (same.trans hashed.symm))
        rw [own] at open_
        exact absurd (grown revoked) open_
  have unauthenticated : authenticate sha256 later.directory headers = .error .unauthorized := by
    simp only [authenticate, presented, refused]
    cases looksLikeKey token with
    | error error => rfl
    | ok _ => rfl
  rw [authorize, unauthenticated]

def revokeStatements : List (KeyStatement keepBytes) :=
  issueStatements ++ [.revokeApiKey 2 "prj_1" "key_1"]

theorem revoked_forever_revoked : ∃ desk later,
    (keyDesk keepBytes).run {} revokeStatements = some desk ∧
      (keyDesk keepBytes).run desk [.createProject 3 "prj_2" "bank" "regtest"] = some later ∧
      authorize keepBytes later.directory (bearer (drawnSecret 7)) .invoicesRead =
        .error .unauthorized := by
  have logged : ((keyDesk keepBytes).run {} revokeStatements).map (·.log) =
      some [.revoked "prj_1" "key_1",
        .issued (drawnSecret 7) ⟨"prj_1", "key_1", ["invoices:read"]⟩] := by rfl
  obtain ⟨desk, ran, log⟩ := Option.map_eq_some_iff.mp logged
  have issued : .issued (drawnSecret 7) ⟨"prj_1", "key_1", ["invoices:read"]⟩ ∈ desk.log := by
    rw [log]
    exact List.mem_cons_of_mem _ (List.mem_singleton_self _)
  have revoked : .revoked "prj_1" "key_1" ∈ desk.log := by
    rw [log]
    exact List.mem_cons_self
  have presents : bearerToken (bearer (drawnSecret 7)) = some (drawnSecret 7) :=
    bearerToken_secretOf .test (drawnBytes 7)
  exact ⟨desk, _, ran, rfl, revoked_forever (Machine.reachable_of_run rfl ran) (.single rfl)
    issued revoked presents rfl .invoicesRead⟩

end Safrod
